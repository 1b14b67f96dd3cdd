import LnProxy.Session.Receiver

set_option autoImplicit false

/-! # The sending side of a stream

`Write` cuts its argument into chunks of at most 64 KiB and sends them one by one; `Relay` writes
what its source returns and ends with `CloseWrite`. All of it runs on the stream's writer. `Sends`
says that what was sent and what the writer still has to send is, in this order, what the application
has written, until the stream is closed by force; and that the `FrameClose` of an open stream stands
behind all of it. -/

namespace LnProxy

open Protocol

/-! ## The writer's sections -/

/-- The sections of `Write`, and of `Relay` up to the end of its source, on stream `r`. -/
def Act.writes (r : Ref) : Act → Bool
  | .write q _ _ | .writeLoop q _ _ | .copyLoop q | .writeFrame _ (.chunk q _ _)
  | .emit _ (.chunk q _ _) => decide (q = r)
  | _ => false

/-- The sections of `CloseWrite` on stream `r`. -/
def Act.closes (r : Ref) : Act → Bool
  | .closeWrite q | .writeFrame _ (.closing q) | .emit _ (.closing q) => decide (q = r)
  | _ => false

def Act.onWriter (r : Ref) (a : Act) : Bool := a.writes r || a.closes r

/-- The sections that are no writer's, whatever the stream. -/
def Act.plain : Act → Bool
  | .write _ _ _ | .writeLoop _ _ _ | .copyLoop _ | .closeWrite _ | .writeFrame _ (.chunk _ _ _)
  | .emit _ (.chunk _ _ _) | .writeFrame _ (.closing _) | .emit _ (.closing _) => false
  | _ => true

/-- The section writes the frame `f` for `purpose`. -/
def Act.writesFrame (f : Frame) (purpose : Purpose) (a : Act) : Prop :=
  a = .writeFrame f purpose ∨ a = .emit f purpose

/-- The bytes a section still has to send. -/
def Act.unsent (r : Ref) : Act → Bytes
  | .write q p _ | .writeLoop q p _ => if q = r then p else []
  | .writeFrame f (.chunk q rest _) | .emit f (.chunk q rest _) =>
    if q = r then f.payload ++ rest else []
  | _ => []

/-- The bytes a section has to send once `Write` has found the stream open. -/
def Act.inFlight (r : Ref) : Act → Bytes
  | .write _ _ _ => []
  | a => a.unsent r

/-- The bytes of stream `r` in a list of written frames. -/
def sentIn (r : Ref) (output : List (Frame × Purpose)) : Bytes :=
  output.flatMap (fun e =>
    match e.2 with
    | .chunk q _ _ => if q = r then e.1.payload else []
    | _ => [])

theorem sentIn_append (r : Ref) (es fs : List (Frame × Purpose)) :
    sentIn r (es ++ fs) = sentIn r es ++ sentIn r fs := List.flatMap_append

/-- Where a list that grows at its end is split. -/
theorem split_concat {α : Type} {es pre post : List α} {e x : α}
    (h : es ++ [e] = pre ++ x :: post) :
    (post = [] ∧ pre = es ∧ x = e) ∨ ∃ post', post = post' ++ [e] ∧ es = pre ++ x :: post' := by
  rcases List.eq_nil_or_concat' post with rfl | ⟨post', e', rfl⟩
  · obtain ⟨rfl, hx⟩ := List.append_inj' h rfl
    exact Or.inl ⟨rfl, rfl, (List.cons.inj hx).1.symm⟩
  · rw [← List.cons_append, ← List.append_assoc] at h
    obtain ⟨rfl, he⟩ := List.append_inj' h rfl
    exact Or.inr ⟨post', by rw [(List.cons.inj he).1], rfl⟩

theorem Act.onWriter_of_plain {a : Act} (h : a.plain = true) (r : Ref) :
    a.writes r = false ∧ a.closes r = false := by
  cases a with
  | writeFrame f purpose | emit f purpose =>
    cases purpose <;> first | exact ⟨rfl, rfl⟩ | cases h
  | _ => first | exact ⟨rfl, rfl⟩ | cases h

theorem Act.follows_of_writes {a : Act} {r : Ref} (h : a.writes r = true) : a.follows = false := by
  cases a <;> first | rfl | cases h

theorem Act.refs_of_onWriter {a : Act} {r : Ref} (h : a.onWriter r = true) : r ∈ a.refs := by
  cases a with
  | write q _ _ | writeLoop q _ _ | copyLoop q | closeWrite q =>
    simp [Act.onWriter, Act.writes, Act.closes] at h
    simp [Act.refs, h]
  | writeFrame f purpose | emit f purpose =>
    cases purpose with
    | chunk q _ _ | closing q =>
      simp [Act.onWriter, Act.writes, Act.closes] at h
      simp [Act.refs, Purpose.refs, h]
    | _ => cases h
  | _ => cases h

theorem Act.writer_of_onOwner {a : Act} {r : Ref} {t : Tid} (h : a.onWriter r = true)
    (ht : a.onOwner t = true) : t = .writer r := by
  cases a with
  | write q _ _ | writeLoop q _ _ | copyLoop q | closeWrite q =>
    simp [Act.onWriter, Act.writes, Act.closes] at h
    rw [← h]
    exact of_decide_eq_true ht
  | writeFrame f purpose | emit f purpose =>
    cases purpose with
    | chunk q _ _ | closing q =>
      simp [Act.onWriter, Act.writes, Act.closes] at h
      rw [← h]
      exact of_decide_eq_true ht
    | _ => cases h
  | _ => cases h

theorem Act.writes_of_unsent {a : Act} {r : Ref} (h : a.unsent r ≠ []) : a.writes r = true := by
  cases a with
  | write q _ _ | writeLoop q _ _ =>
    simp only [Act.unsent, ne_eq, ite_eq_right_iff, Classical.not_imp] at h
    simp [Act.writes, h.1]
  | writeFrame f purpose | emit f purpose =>
    cases purpose with
    | chunk q _ _ =>
      simp only [Act.unsent, ne_eq, ite_eq_right_iff, Classical.not_imp] at h
      simp [Act.writes, h.1]
    | _ => exact absurd rfl h
  | _ => exact absurd rfl h

theorem Act.inFlight_prefix (a : Act) (r : Ref) : a.inFlight r <+: a.unsent r := by
  cases a with
  | write _ _ _ => exact List.nil_prefix
  | _ => exact List.prefix_rfl

namespace Session

variable {json : Codec} {s s' s₁ : Session} {t : Tid} {a : Act} {c : Choice} {k acts : List Act}
  {l : Label} {op : Op} {r : Ref} {u : Tid} {b : Act} {f : Frame} {purpose : Purpose}

/-- The bytes of stream `r` that were written to the connection. -/
def sent (s : Session) (r : Ref) : Bytes := sentIn r s.output

@[simp] theorem goto_sent (s : Session) (t : Tid) (k : List Act) (r : Ref) :
    (s.goto t k).sent r = s.sent r := rfl

/-- The bytes of stream `r` that its writer still has to send. -/
def unsent (s : Session) (r : Ref) : Bytes :=
  match s.threads (.writer r) with
  | a :: _ => a.unsent r
  | [] => []

def inFlight (s : Session) (r : Ref) : Bytes :=
  match s.threads (.writer r) with
  | a :: _ => a.inFlight r
  | [] => []

/-- The stream is closed by force, or its writer is about to do it. -/
def Stopped (s : Session) (r : Ref) : Prop :=
  (s.obj r).closed = true ∨ ∃ err, .forceClose r err ∈ s.threads (.writer r)

structure Flows (s : Session) (r : Ref) : Prop where
  /-- Sent and still to send is what was written. -/
  flow : ¬ s.Stopped r → s.sent r ++ s.unsent r = (s.obj r).written
  /-- What is sent was written, in order, also for a closed stream. -/
  order : s.sent r ++ s.inFlight r <+: (s.obj r).written

structure Sends (s : Session) : Prop where
  /-- Nothing stands behind a section of the writer. -/
  last : ∀ t, ∀ a ∈ (s.threads t).dropLast, ∀ r, a.onWriter r = false
  owned : ∀ t, ∀ a ∈ s.threads t, ∀ r, a.onWriter r = true → (s.obj r).owned = true
  /-- `Write` and `Relay` come before `CloseWrite`. -/
  localOpen : ∀ t, ∀ a ∈ s.threads t, ∀ r, a.writes r = true → (s.obj r).localEOF = false
  written : ∀ r, (s.obj r).written ≠ [] → (s.obj r).owned = true
  chunks : ∀ f r rest inCopy, (f, .chunk r rest inCopy) ∈ s.output → (s.obj r).owned = true
  flows : ∀ r, s.Flows r
  /-- `CloseWrite` sends its frame after all the data. -/
  closing : ∀ t f r, ∀ a ∈ s.threads t, a.writesFrame f (.closing r) →
    (s.obj r).localEOF = true ∧ ((s.obj r).closed = true ∨ s.sent r = (s.obj r).written)
  closed : ∀ pre f post r, s.output = pre ++ (f, .closing r) :: post →
    (s.obj r).localEOF = true ∧ ((s.obj r).closed = true ∨ sentIn r pre = (s.obj r).written)

theorem new_sends (bufferSize : Nat) : (Session.new bufferSize).Sends where
  last := by simp [Session.new]
  owned := by simp [Session.new]
  localOpen := by simp [Session.new]
  written := by simp [Session.new, newStream]
  chunks := by simp [Session.new]
  flows r := ⟨fun _ => by simp [Session.new, newStream, sent, sentIn, unsent],
    by simp [Session.new, sent, sentIn, inFlight]⟩
  closing := by simp [Session.new]
  closed := by simp [Session.new]

/-! ## What a section does on the writer's side -/

/-- How the sections `new` that follow `a` relate to its stream's writer. -/
def WriterNext (a : Act) (new : List Act) : Prop :=
  (∀ b ∈ new.dropLast, ∀ r, b.onWriter r = false) ∧
    ∀ b ∈ new, (∀ r, b.writes r = true → a.writes r = true) ∧
      ∀ r, b.closes r = true → a.onWriter r = true

theorem writerNext_of_plain {new : List Act} (h : new.all Act.plain = true) : WriterNext a new := by
  rw [List.all_eq_true] at h
  refine ⟨fun b hb r => ?_, fun b hb => ⟨fun r hr => ?_, fun r hr => ?_⟩⟩
  · have := Act.onWriter_of_plain (h b (List.dropLast_subset _ hb)) r
    rw [Act.onWriter, this.1, this.2]
    rfl
  · rw [(Act.onWriter_of_plain (h b hb) r).1] at hr
    cases hr
  · rw [(Act.onWriter_of_plain (h b hb) r).2] at hr
    cases hr

theorem writerNext_singleton (hwrites : ∀ r, b.writes r = true → a.writes r = true)
    (hcloses : ∀ r, b.closes r = true → a.onWriter r = true) : WriterNext a [b] := by
  refine ⟨by simp, ?_⟩
  rw [List.forall_mem_singleton]
  exact ⟨hwrites, hcloses⟩

theorem onErr_writerNext (frame : Frame) (err : Err)
    (ha : ∀ r, (Act.emit frame purpose).onWriter r = a.onWriter r) :
    WriterNext a (purpose.onErr err) := by
  cases purpose with
  | chunk q rest inCopy =>
    cases inCopy with
    | false => exact writerNext_of_plain rfl
    | true =>
      have hq : a.onWriter q = true := by
        rw [← ha q]
        simp [Act.onWriter, Act.writes]
      refine ⟨by simp [Purpose.onErr, Act.onWriter, Act.writes, Act.closes], ?_⟩
      simp only [Purpose.onErr, if_true, List.forall_mem_cons, Act.writes, Act.closes,
        Bool.false_eq_true, false_imp_iff, implies_true, true_and, decide_eq_true_eq]
      refine ⟨?_, by simp⟩
      rintro r rfl
      exact hq
  | _ => exact writerNext_of_plain rfl

theorem Moves.writerNext (h : Moves json s a c acts) : WriterNext a acts := by
  cases h with
  | @writeFrame _ purpose _ =>
    refine writerNext_singleton ?_ ?_ <;> cases purpose <;>
      simp [Act.onWriter, Act.writes, Act.closes]
  | @writeFrameRefused frame purpose _ =>
    exact onErr_writerNext frame _ fun r => by cases purpose <;> rfl
  | oversized _ | failed _ => exact onErr_writerNext _ _ fun r => rfl
  | @writeEmpty _ inCopy =>
    cases inCopy with
    | false => exact writerNext_of_plain rfl
    | true => exact writerNext_singleton (fun _ => id) (fun _ h => by cases h)
  | @writeRefused _ _ inCopy _ =>
    cases inCopy with
    | false => exact writerNext_of_plain rfl
    | true =>
      refine writerNext_singleton (fun _ h => by cases h) ?_
      simp [Act.onWriter, Act.writes, Act.closes]
  | write _ _ | writeLoop => exact writerNext_singleton (fun _ => id) (fun _ h => by cases h)
  | sourceEOF =>
    refine writerNext_singleton (fun _ h => by cases h) ?_
    simp [Act.onWriter, Act.writes, Act.closes]
  | _ => exact writerNext_of_plain rfl

theorem onOk_writerNext {frame : Frame} (purpose : Purpose) :
    WriterNext (.emit frame purpose) purpose.onOk := by
  cases purpose with
  | chunk q rest inCopy =>
    simp only [Purpose.onOk]
    split
    · cases inCopy with
      | false => exact writerNext_of_plain rfl
      | true => exact writerNext_singleton (fun _ => id) (fun _ h => by cases h)
    · exact writerNext_singleton (fun _ => id) (fun _ h => by cases h)
  | _ => exact writerNext_of_plain rfl

/-- The sections of the writer come from sections of the writer, and end the stack. -/
theorem Ran.writerNext (h : Ran json s t k a c s₁ acts) :
    ∃ new rest, acts = new ++ rest ∧ (rest = k ∨ rest = []) ∧ WriterNext a new := by
  cases h with
  | moves h => exact ⟨_, k, rfl, Or.inl rfl, h.writerNext⟩
  | @wrote _ purpose _ => exact ⟨_, k, rfl, Or.inl rfl, onOk_writerNext purpose⟩
  | handle h =>
    cases h with
    | ackInvalid _ | unexpectedControl _ _ _ _ =>
      exact ⟨[_, _], [], rfl, Or.inr rfl, writerNext_of_plain rfl⟩
    | unknown _ _ | control _ _ _ _ =>
      exact ⟨[], k, rfl, Or.inl rfl, writerNext_of_plain rfl⟩
    | _ => exact ⟨[_], k, rfl, Or.inl rfl, writerNext_of_plain rfl⟩
  | openAccepted _ _ | sendAck | readReturn | dispatchOverflow _ | dispatch _ | overflow _
  | removeStream | shutdownEnd | readCopy _ | readEOF _ _ _ | deliver _ _ _ | closeReads _
  | closeDone => exact ⟨[], k, rfl, Or.inl rfl, writerNext_of_plain rfl⟩
  | openRejected _ _ | forceClose _ => exact ⟨[_, _], k, rfl, Or.inl rfl, writerNext_of_plain rfl⟩
  | closeWrite _ _ =>
    refine ⟨[_], k, rfl, Or.inl rfl, writerNext_singleton (fun _ h => by cases h) ?_⟩
    simp [Act.onWriter, Act.writes, Act.closes]
  | source =>
    exact ⟨[_], k, rfl, Or.inl rfl, writerNext_singleton (fun _ => id) (fun _ h => by cases h)⟩
  | sourceErr =>
    refine ⟨[_], k, rfl, Or.inl rfl, writerNext_singleton (fun _ h => by cases h) ?_⟩
    simp [Act.onWriter, Act.writes, Act.closes]
  | _ => exact ⟨[_], k, rfl, Or.inl rfl, writerNext_of_plain rfl⟩

/-- How a frame that is to be written comes about. -/
inductive Composed (json : Codec) (s s₁ : Session) : Act → Frame → Purpose → Prop where
  | opening {r : Ref} {request : OpenRequest} :
      Composed json s s₁ (.openInsert r request) (openFrame json request) (.opening r)
  | accepting {r : Ref} {ack : Ack} (h : s₁ = s) :
      Composed json s s₁ (.accept r) (ackFrame json (s.obj r).id ack) (.accepting r)
  | chunk {r : Ref} {p : Bytes} {inCopy : Bool} (h : s₁ = s) :
      Composed json s s₁ (.writeLoop r p inCopy) (dataFrame (s.obj r).id (p.take maxDataSize))
        (.chunk r (p.drop maxDataSize) inCopy)
  | closing {r : Ref} (hclosed : (s.obj r).closed = false) (hlocal : (s₁.obj r).localEOF = true) :
      Composed json s s₁ (.closeWrite r) (closeFrame (s.obj r).id) (.closing r)
  | invalid {frame : Frame} {message : String} (htype : frame.type = frameOpen)
      (hinput : s₁.input = s.input ++ [(frame, none)]) :
      Composed json s s₁ (.handle frame) (errorFrame json frame.id message)
        (.reply s.input.length)
  | unknown {frame : Frame} (htype : frame.type = frameData)
      (hinput : s₁.input = s.input ++ [(frame, none)]) :
      Composed json s s₁ (.handle frame) (closeFrame frame.id) (.reply s.input.length)

theorem not_writesFrame_of_follows
    (h : b.follows = true) : ¬ b.writesFrame f purpose := by
  rintro (rfl | rfl) <;> cases h

theorem Ran.composed (h : Ran json s t k a c s₁ acts)
    (hb : b ∈ acts) (hf : b.writesFrame f purpose) : b ∈ k ∨
      (a = .writeFrame f purpose ∧ s₁ = s) ∨ Composed json s s₁ a f purpose := by
  cases h with
  | moves h =>
    rcases List.mem_append.1 hb with hb | hb
    · cases h with
      | writeFrameRefused _ | oversized _ | failed _ =>
        exact absurd hf (not_writesFrame_of_follows (onErr_follows _ _ b hb))
      | writeFrame _ =>
        rw [List.mem_singleton] at hb
        subst hb
        rcases hf with hf | hf <;> cases hf
        exact Or.inr (Or.inl ⟨rfl, rfl⟩)
      | accept _ =>
        rw [List.mem_singleton] at hb
        subst hb
        rcases hf with hf | hf <;> cases hf
        exact Or.inr (Or.inr (.accepting rfl))
      | writeLoop =>
        rw [List.mem_singleton] at hb
        subst hb
        rcases hf with hf | hf <;> cases hf
        exact Or.inr (Or.inr (.chunk rfl))
      | @writeEmpty _ inCopy | @writeRefused _ _ inCopy _ =>
        rcases hf with rfl | rfl <;> cases inCopy <;>
          simp [afterEmptyWrite, afterRefusedWrite] at hb
      | _ => rcases hf with rfl | rfl <;> simp at hb
    · exact Or.inl hb
  | @wrote _ purpose' _ =>
    rcases List.mem_append.1 hb with hb | hb
    · cases purpose' with
      | chunk q rest inCopy =>
        simp only [Purpose.onOk] at hb
        split at hb
        · cases inCopy <;> rcases hf with rfl | rfl <;> simp at hb
        · rcases hf with rfl | rfl <;> simp at hb
      | _ => rcases hf with rfl | rfl <;> simp [Purpose.onOk] at hb
    · exact Or.inl hb
  | openInsert _ _ =>
    rcases List.mem_cons.1 hb with rfl | hb
    · rcases hf with hf | hf <;> cases hf
      exact Or.inr (Or.inr .opening)
    · exact Or.inl hb
  | closeWrite hclosed _ =>
    rcases List.mem_cons.1 hb with rfl | hb
    · rcases hf with hf | hf <;> cases hf
      exact Or.inr (Or.inr (.closing hclosed (by simp [modify])))
    · exact Or.inl hb
  | handle h =>
    cases h with
    | openInvalid htype _ =>
      rcases List.mem_cons.1 hb with rfl | hb
      · rcases hf with hf | hf <;> cases hf
        exact Or.inr (Or.inr (.invalid htype rfl))
      · exact Or.inl hb
    | unknownData htype _ =>
      rcases List.mem_cons.1 hb with rfl | hb
      · rcases hf with hf | hf <;> cases hf
        exact Or.inr (Or.inr (.unknown htype rfl))
      · exact Or.inl hb
    | unknown _ _ | control _ _ _ _ => exact Or.inl hb
    | ackInvalid _ | unexpectedControl _ _ _ _ => rcases hf with rfl | rfl <;> simp at hb
    | _ =>
      refine Or.inl ?_
      rcases hf with rfl | rfl <;> simpa using hb
  | _ =>
    refine Or.inl ?_
    rcases hf with rfl | rfl <;> simpa using hb

/-- A section that writes a frame was there before the step, if only to check the session, or the
    step has composed the frame. -/
theorem Ran.writes_mem (hthread : s.threads t = a :: k) (h : Ran json s t k a c s₁ acts)
    (hb : b ∈ (s₁.goto t acts).threads u)
    (hf : b.writesFrame f purpose) : (∃ b' ∈ s.threads u, b'.writesFrame f purpose) ∨
      u = t ∧ Composed json s s₁ a f purpose := by
  rcases h.mem_acts hb with ⟨-, hmem⟩ | ⟨rfl, hacts⟩ | ⟨q, -, rfl, -⟩
  · exact Or.inl ⟨b, hmem, hf⟩
  · rcases h.composed hacts hf with hk | ⟨rfl, -⟩ | hcomposed
    · exact Or.inl ⟨b, mem_of_tail hthread hk, hf⟩
    · exact Or.inl ⟨_, mem_of_head hthread, Or.inl rfl⟩
    · exact Or.inr ⟨rfl, hcomposed⟩
  · rcases hf with hf | hf <;> cases hf

theorem Ran.output (h : Ran json s t k a c s₁ acts) : s₁.output = s.output ∨
    ∃ f purpose, a = .emit f purpose ∧ f.fits ∧ acts = purpose.onOk ++ k ∧ s₁.obj = s.obj ∧
      s₁.output = s.output ++ [(f, purpose)] := by
  cases h with
  | wrote hfits => exact Or.inr ⟨_, _, rfl, hfits, rfl, rfl, rfl⟩
  | handle h => cases h <;> exact Or.inl rfl
  | _ => exact Or.inl rfl

/-- Only `Write` and `Relay` send the data of a stream. -/
theorem Ran.sent_eq (h : Ran json s t k a c s₁ acts) (ha : a.writes r = false) :
    s₁.sent r = s.sent r := by
  rcases h.output with heq | ⟨f, purpose, rfl, -, -, -, heq⟩
  · simp [sent, heq]
  · rw [sent, heq, sentIn_append, sent]
    cases purpose with
    | chunk q rest inCopy =>
      have hq : q ≠ r := by simpa [Act.writes] using ha
      simp [sentIn, hq]
    | _ => simp [sentIn]

/-- Only `Relay` adds to what was written. -/
theorem Ran.written_eq (hw : s.Wf) (hthread : s.threads t = a :: k)
    (h : Ran json s t k a c s₁ acts) (ha : a.writes r = false) :
    (s₁.obj r).written = (s.obj r).written := by
  have htouched := h.touched r
  generalize s₁.obj r = y at htouched ⊢
  cases htouched with
  | new hcount =>
    rw [hw.fresh r (Nat.le_of_eq hcount)]
    rfl
  | source => simp [Act.writes] at ha
  | _ => rfl

theorem Ran.localEOF (h : Ran json s t k a c s₁ acts) (hr : (s₁.obj r).localEOF = true) :
    (s.obj r).localEOF = true ∨ a = .closeWrite r := by
  have htouched := h.touched r
  generalize s₁.obj r = y at htouched hr
  cases htouched with
  | localEOF _ => exact Or.inr rfl
  | new _ => cases hr
  | _ => exact Or.inl hr

theorem Ran.onWriter_mem (hthread : s.threads t = a :: k) (h : Ran json s t k a c s₁ acts)
    (hb : b ∈ (s₁.goto t acts).threads u) (hr : b.onWriter r = true) :
    b ∈ s.threads u ∨ u = t ∧ a.onWriter r = true ∧ (b.writes r = true → a.writes r = true) := by
  rcases h.mem_acts hb with ⟨-, hmem⟩ | ⟨rfl, hacts⟩ | ⟨q, -, rfl, -⟩
  · exact Or.inl hmem
  · obtain ⟨new, rest, rfl, hrest, -, hnew⟩ := h.writerNext
    rcases List.mem_append.1 hacts with hb | hb
    · refine Or.inr ⟨rfl, ?_, (hnew b hb).1 r⟩
      rw [Act.onWriter, Bool.or_eq_true] at hr
      rcases hr with hr | hr
      · rw [Act.onWriter, (hnew b hb).1 r hr, Bool.true_or]
      · exact (hnew b hb).2 r hr
    · rcases hrest with rfl | rfl
      · exact Or.inl (mem_of_tail hthread hb)
      · cases hb
  · cases hr

/-! ## Preservation -/

theorem unsent_cons (hthread : s.threads (.writer r) = a :: k) : s.unsent r = a.unsent r := by
  simp [unsent, hthread]

theorem inFlight_cons (hthread : s.threads (.writer r) = a :: k) :
    s.inFlight r = a.inFlight r := by
  simp [inFlight, hthread]

theorem unsent_eq_of_threads (h : s'.threads (.writer r) = s.threads (.writer r)) :
    s'.unsent r = s.unsent r ∧ s'.inFlight r = s.inFlight r := by
  simp [unsent, inFlight, h]

theorem unsent_eq_nil (h : ∀ b ∈ s.threads (.writer r), b.writes r = false) :
    s.unsent r = [] ∧ s.inFlight r = [] := by
  cases hthread : s.threads (.writer r) with
  | nil => simp [unsent, inFlight, hthread]
  | cons b rest =>
    have hnil : b.unsent r = [] := by
      by_contra hne
      have := Act.writes_of_unsent hne
      rw [h b (mem_of_head hthread)] at this
      cases this
    refine ⟨by rw [unsent_cons hthread, hnil], ?_⟩
    have hprefix := Act.inFlight_prefix b r
    rw [hnil, List.prefix_nil] at hprefix
    rw [inFlight_cons hthread, hprefix]

/-- Nothing that the writer has to do with changes. -/
theorem Flows.congr (h : s.Flows r)
    (hunsent : s'.unsent r = s.unsent r ∧ s'.inFlight r = s.inFlight r)
    (hsent : s'.sent r = s.sent r) (hwritten : (s'.obj r).written = (s.obj r).written)
    (hstop : s.Stopped r → s'.Stopped r) : s'.Flows r where
  flow hno := by
    rw [hunsent.1, hsent, hwritten]
    exact h.flow fun hs => hno (hstop hs)
  order := by
    rw [hunsent.2, hsent, hwritten]
    exact h.order

/-- The writer goes on; only its next section counts. -/
theorem flows_goto
    (hflow : (s.obj r).closed = false →
      s.sent r ++ acts.head?.elim [] (Act.unsent r) = (s.obj r).written)
    (horder : s.sent r ++ acts.head?.elim [] (Act.inFlight r) <+: (s.obj r).written) :
    (s.goto (.writer r) acts).Flows r := by
  have hopen : ¬ (s.goto (.writer r) acts).Stopped r → (s.obj r).closed = false :=
    fun hno => Bool.eq_false_of_not_eq_true fun hc => hno (Or.inl hc)
  cases acts with
  | nil => exact ⟨fun hno => by simpa [unsent] using hflow (hopen hno), by simpa [inFlight] using horder⟩
  | cons b rest =>
    refine ⟨fun hno => ?_, ?_⟩
    · rw [unsent_cons (goto_threads_self ..)]
      exact hflow (hopen hno)
    · rw [inFlight_cons (goto_threads_self ..)]
      exact horder

/-- The writer is about to close the stream by force. -/
theorem flows_forceClose {err : Err} {rest : List Act} (hsent : s.sent r <+: (s.obj r).written) :
    (s.goto (.writer r) (.forceClose r err :: rest)).Flows r where
  flow hno := absurd (Or.inr ⟨err, by simp⟩) hno
  order := by
    rw [inFlight_cons (goto_threads_self ..)]
    simpa [Act.inFlight, Act.unsent] using hsent

section Preservation

variable (hs : s.Sends) (honOwner : ∀ t, ∀ a ∈ s.threads t, a.onOwner t = true) (hw : s.Wf)
  (hthread : s.threads t = a :: k) (h : Ran json s t k a c s₁ acts)

include hs honOwner hw hthread h

omit hw h in
/-- A section of the writer stands alone on the writer's stack. -/
theorem Sends.alone (ha : a.onWriter r = true) : t = .writer r ∧ k = [] := by
  have hamem := mem_of_head hthread
  refine ⟨Act.writer_of_onOwner ha (honOwner t a hamem), ?_⟩
  cases k with
  | nil => rfl
  | cons b rest =>
    have := hs.last t a (by rw [hthread]; simp) r
    rw [ha] at this
    cases this

omit honOwner hw in
theorem Sends.run_last (hb : b ∈ ((s₁.goto t acts).threads u).dropLast) :
    b.onWriter r = false := by
  by_cases hu : u = t
  · subst hu
    rw [goto_threads_self] at hb
    obtain ⟨new, rest, rfl, hrest, hlast, hnew⟩ := h.writerNext
    by_cases hnil : rest = []
    · rw [hnil, List.append_nil] at hb
      exact hlast b hb r
    · obtain rfl : rest = k := hrest.resolve_right hnil
      have hak : ∀ b ∈ rest.dropLast, b.onWriter r = false := by
        intro b hb
        refine hs.last u b ?_ r
        rw [hthread, List.dropLast_cons_of_ne_nil hnil]
        exact List.mem_cons_of_mem _ hb
      rw [List.dropLast_append_of_ne_nil hnil, List.mem_append] at hb
      rcases hb with hb | hb
      · -- a section of the writer has nothing behind it
        refine Bool.eq_false_of_not_eq_true fun hr => ?_
        have ha : a.onWriter r = true := by
          rw [Act.onWriter, Bool.or_eq_true] at hr
          rcases hr with hr | hr
          · rw [Act.onWriter, (hnew b hb).1 r hr, Bool.true_or]
          · exact (hnew b hb).2 r hr
        have := hs.last u a (by rw [hthread, List.dropLast_cons_of_ne_nil hnil]; simp) r
        rw [ha] at this
        cases this
      · exact hak b hb
  · rw [goto_threads_of_ne _ _ hu] at hb
    cases h with
    | @dispatchOverflow q _ =>
      simp only [goto, Function.update_apply] at hb
      split at hb
      · cases hb
      · exact hs.last u b hb r
    | handle h => cases h <;> exact hs.last u b hb r
    | _ => exact hs.last u b hb r

omit honOwner in
theorem Sends.run_owned (hb : b ∈ (s₁.goto t acts).threads u)
    (hr : b.onWriter r = true) : (s₁.obj r).owned = true := by
  refine (h.keeps hw hthread r).owned ?_
  rcases h.onWriter_mem hthread hb hr with hmem | ⟨-, ha, -⟩
  · exact hs.owned u b hmem r hr
  · exact hs.owned t a (mem_of_head hthread) r ha

theorem Sends.run_localOpen (hb : b ∈ (s₁.goto t acts).threads u)
    (hr : b.writes r = true) : (s₁.obj r).localEOF = false := by
  have honw : b.onWriter r = true := by rw [Act.onWriter, hr, Bool.true_or]
  have hamem := mem_of_head hthread
  refine Bool.eq_false_of_not_eq_true fun hlocal => ?_
  rcases h.localEOF hlocal with hbefore | rfl
  · rcases h.onWriter_mem hthread hb honw with hmem | ⟨-, -, ha⟩
    · rw [hs.localOpen u b hmem r hr] at hbefore
      cases hbefore
    · rw [hs.localOpen t a hamem r (ha hr)] at hbefore
      cases hbefore
  · rcases h.onWriter_mem hthread hb honw with hmem | ⟨-, -, ha⟩
    · -- both sections would be the next one of the writer
      have hu : u = .writer r := Act.writer_of_onOwner honw (honOwner u b hmem)
      have ht : t = .writer r := (Sends.alone hs honOwner hthread (by simp [Act.onWriter, Act.closes])).1
      subst hu ht
      have := hw.head_eq hthread hmem (Act.follows_of_writes hr)
      subst this
      cases hr
    · cases ha hr

omit hs honOwner in
/-- A stream that is stopped stays so. -/
theorem Stopped.run (hstop : s.Stopped r) : (s₁.goto t acts).Stopped r := by
  rcases hstop with hclosed | ⟨err, hmem⟩
  · exact Or.inl ((h.keeps hw hthread r).closed hclosed)
  · by_cases ht : Tid.writer r = t
    · subst ht
      rw [hthread, List.mem_cons] at hmem
      rcases hmem with rfl | hmem
      · refine Or.inl ?_
        cases h with
        | moves h =>
          cases h with
          | forceCloseAgain hfinished =>
            rw [goto_obj, (hw.ok r).once, hfinished]
            simp
        | forceClose _ => simp [modify, Stream.forceClose]
      · refine Or.inr ⟨err, ?_⟩
        rw [goto_threads_self]
        obtain ⟨new, rest, rfl, rfl | ⟨-, hlast⟩, -, -⟩ := h.pushed
        · exact List.mem_append_right _ hmem
        · -- only the read loop drops what it had left
          have hret : .readReturn ∈ ((s₁.goto (.writer r) (new ++ rest)).threads (.writer r)) := by
            rw [goto_threads_self]
            exact List.mem_append_left _ (List.mem_of_getLast? hlast)
          have := (hw.run hthread h).runsOn _ _ hret
          cases this
    · refine Or.inr ⟨err, ?_⟩
      rw [h.threads_of_ne ht (by simp)]
      exact hmem

omit hs honOwner in
/-- A section that is not one of the writer's leaves what the writer has to send. -/
theorem unsent_run (ha : a.writes r = false) :
    (s₁.goto t acts).unsent r = s.unsent r ∧ (s₁.goto t acts).inFlight r = s.inFlight r := by
  by_cases ht : Tid.writer r = t
  · subst ht
    have hfollows : ∀ b ∈ k, b.writes r = false := by
      intro b hb
      refine Bool.eq_false_of_not_eq_true fun hr => ?_
      have := hw.follows (.writer r) b (by rw [hthread]; exact hb)
      rw [Act.follows_of_writes hr] at this
      cases this
    have hbefore : ∀ b ∈ s.threads (.writer r), b.writes r = false := by
      rw [hthread]
      exact List.forall_mem_cons.2 ⟨ha, hfollows⟩
    have hafter : ∀ b ∈ (s₁.goto (.writer r) acts).threads (.writer r), b.writes r = false := by
      intro b hb
      refine Bool.eq_false_of_not_eq_true fun hr => ?_
      rcases h.onWriter_mem hthread hb (by rw [Act.onWriter, hr, Bool.true_or]) with
        hmem | ⟨-, -, hwrites⟩
      · rw [hbefore b hmem] at hr
        cases hr
      · rw [hwrites hr] at ha
        cases ha
    obtain ⟨h₁, h₂⟩ := unsent_eq_nil hbefore
    obtain ⟨h₃, h₄⟩ := unsent_eq_nil hafter
    rw [h₁, h₂, h₃, h₄]
    exact ⟨rfl, rfl⟩
  · exact unsent_eq_of_threads (h.threads_of_ne ht (by simp))

/-- The writer sends what it has to send, in order, or stops the stream. -/
theorem Sends.writer_flows (ha : a.writes r = true) : (s₁.goto t acts).Flows r := by
  obtain ⟨rfl, rfl⟩ := Sends.alone hs honOwner hthread (r := r)
    (by rw [Act.onWriter, ha, Bool.true_or])
  have hflow : (s.obj r).closed = false → s.sent r ++ a.unsent r = (s.obj r).written := by
    intro hopen
    rw [← unsent_cons hthread]
    refine (hs.flows r).flow ?_
    rintro (hclosed | ⟨err, hmem⟩)
    · rw [hopen] at hclosed
      cases hclosed
    · rw [hthread, List.mem_singleton] at hmem
      subst hmem
      cases ha
  have horder : s.sent r ++ a.inFlight r <+: (s.obj r).written := by
    rw [← inFlight_cons hthread]
    exact (hs.flows r).order
  have hsent : s.sent r <+: (s.obj r).written := (List.prefix_append ..).trans horder
  have hzero : s.sent r ++ [] <+: (s.obj r).written := by simpa using hsent
  cases h with
  | moves h =>
    rw [List.append_nil]
    cases h with
    | @writeFrameRefused f purpose _ | @oversized f purpose _ | @failed f purpose _ _ _ =>
      cases purpose with
      | chunk q rest inCopy =>
        obtain rfl : q = r := of_decide_eq_true ha
        exact flows_forceClose hsent
      | _ => cases ha
    | @writeFrame f purpose _ =>
      cases purpose with
      | chunk q rest inCopy => exact flows_goto hflow horder
      | _ => cases ha
    | @writeEmpty q inCopy =>
      have hall : (s.obj r).closed = false → s.sent r ++ [] = (s.obj r).written := by
        intro hc
        have := hflow hc
        rwa [Act.unsent, ite_self] at this
      cases inCopy <;> exact flows_goto hall hzero
    | @writeRefused q p inCopy hrefuse =>
      obtain rfl : q = r := of_decide_eq_true ha
      have hclosed : (s.obj q).closed = true :=
        hrefuse.elim (fun herr => (hw.ok q).writeErr.2 herr) id
      have hvoid : ∀ x : Bytes, (s.obj q).closed = false → s.sent q ++ x = (s.obj q).written := by
        intro x hopen
        rw [hclosed] at hopen
        cases hopen
      cases inCopy <;> exact flows_goto (hvoid _) hzero
    | @write q p inCopy hp hclosed =>
      obtain rfl : q = r := of_decide_eq_true ha
      exact flows_goto hflow (hflow hclosed ▸ List.prefix_rfl)
    | @writeLoop q p inCopy =>
      obtain rfl : q = r := of_decide_eq_true ha
      have hchunks : Act.unsent q (.writeFrame (dataFrame (s.obj q).id (p.take maxDataSize))
          (.chunk q (p.drop maxDataSize) inCopy)) = Act.unsent q (.writeLoop q p inCopy) := by
        simp [Act.unsent, dataFrame]
      replace horder : s.sent q ++ Act.unsent q (.writeLoop q p inCopy) <+: _ := horder
      rw [← hchunks] at hflow horder
      exact flows_goto hflow horder
    | @sourceEOF q => exact flows_goto hflow horder
    | _ => cases ha
  | @wrote f purpose _ =>
    cases purpose with
    | chunk q rest inCopy =>
      obtain rfl : q = r := of_decide_eq_true ha
      have hpending : s.sent q ++ Act.unsent q (.emit f (.chunk q rest inCopy)) =
          Session.sent { s with output := s.output ++ [(f, .chunk q rest inCopy)] } q ++ rest := by
        simp [Act.unsent, sent, sentIn]
      replace horder : s.sent q ++ Act.unsent q (.emit f (.chunk q rest inCopy)) <+: _ := horder
      rw [hpending] at hflow horder
      rw [List.append_nil, Purpose.onOk]
      split
      · next hnil =>
        subst hnil
        cases inCopy <;> exact flows_goto hflow horder
      · refine flows_goto ?_ ?_
        · simpa [Act.unsent] using hflow
        · simpa [Act.inFlight, Act.unsent] using horder
    | _ => cases ha
  | @source q p =>
    obtain rfl : q = r := of_decide_eq_true ha
    have hwritten : ((s.modify q fun y => { y with written := y.written ++ p }).obj q).written
        = (s.obj q).written ++ p := by simp [modify]
    refine flows_goto (fun hopen => ?_) ?_
    · rw [hwritten, ← hflow (by simpa [modify] using hopen)]
      simp [Act.unsent]
      rfl
    · rw [hwritten]
      exact hzero.trans (List.prefix_append ..)
  | @sourceErr q err =>
    obtain rfl : q = r := of_decide_eq_true ha
    have hsame : ((s.modify q fun y => { y with sourceErr := some err }).obj q) =
        { s.obj q with sourceErr := some err } := by simp [modify]
    refine flows_goto ?_ ?_
    · rw [hsame]
      exact hflow
    · rw [hsame]
      exact horder
  | _ => cases ha

theorem Sends.run_flows (r : Ref) : (s₁.goto t acts).Flows r := by
  by_cases ha : a.writes r = true
  · exact Sends.writer_flows hs honOwner hw hthread h ha
  · have ha := Bool.eq_false_of_not_eq_true ha
    exact (hs.flows r).congr (unsent_run hw hthread h ha) ((goto_sent ..).trans (h.sent_eq ha))
      (h.written_eq hw hthread ha :) (·.run hw hthread h)

omit honOwner in
/-- Once `CloseWrite` was called, what was sent and what was written stay as they are. -/
theorem Sends.ended_eq (hlocal : (s.obj r).localEOF = true) :
    s₁.sent r = s.sent r ∧ (s₁.obj r).written = (s.obj r).written := by
  have ha : a.writes r = false := by
    refine Bool.eq_false_of_not_eq_true fun ha => ?_
    rw [hs.localOpen t a (mem_of_head hthread) r ha] at hlocal
    cases hlocal
  exact ⟨h.sent_eq ha, h.written_eq hw hthread ha⟩

theorem Sends.run_closing (hb : b ∈ (s₁.goto t acts).threads u)
    (hf : b.writesFrame f (.closing r)) : (s₁.obj r).localEOF = true ∧
      ((s₁.obj r).closed = true ∨ s₁.sent r = (s₁.obj r).written) := by
  have hkeeps := h.keeps hw hthread r
  rcases h.writes_mem hthread hb hf with ⟨b', hb', hf'⟩ | ⟨rfl, hcomposed⟩
  · -- the frame was on its way before the step
    obtain ⟨hlocal, hdone⟩ := hs.closing u f r b' hb' hf'
    obtain ⟨hsent, hwritten⟩ := Sends.ended_eq hs hw hthread h hlocal
    rw [hsent, hwritten]
    exact ⟨hkeeps.localEOF hlocal, hdone.imp_left hkeeps.closed⟩
  · generalize hp : Purpose.closing r = purpose at hcomposed
    cases hcomposed with
    | closing hclosed hlocal =>
      cases hp
      obtain ⟨rfl, rfl⟩ := Sends.alone hs honOwner hthread (r := r)
        (by simp [Act.onWriter, Act.closes])
      have hall := (hs.flows r).flow (by
        rintro (hc | ⟨err, hmem⟩)
        · rw [hclosed] at hc
          cases hc
        · rw [hthread] at hmem
          simp at hmem)
      rw [unsent_cons hthread] at hall
      refine ⟨hlocal, Or.inr ?_⟩
      rw [h.sent_eq rfl, h.written_eq hw hthread rfl, ← hall]
      simp [Act.unsent]
    | _ => cases hp

omit honOwner in
theorem Sends.run_closed {pre post : List (Frame × Purpose)}
    (hout : s₁.output = pre ++ (f, .closing r) :: post) : (s₁.obj r).localEOF = true ∧
      ((s₁.obj r).closed = true ∨ sentIn r pre = (s₁.obj r).written) := by
  have hkeeps := h.keeps hw hthread r
  have hbefore : ∀ post', s.output = pre ++ (f, .closing r) :: post' →
      (s₁.obj r).localEOF = true ∧
        ((s₁.obj r).closed = true ∨ sentIn r pre = (s₁.obj r).written) := by
    intro post' hold
    obtain ⟨hlocal, hdone⟩ := hs.closed pre f post' r hold
    rw [(Sends.ended_eq hs hw hthread h hlocal).2]
    exact ⟨hkeeps.localEOF hlocal, hdone.imp_left hkeeps.closed⟩
  rcases h.output with heq | ⟨g, purpose, rfl, -, -, hobj, heq⟩
  · exact hbefore post (heq ▸ hout)
  · rw [heq] at hout
    rcases split_concat hout with ⟨-, rfl, hlast⟩ | ⟨post', -, hold⟩
    · -- the frame of `CloseWrite` itself
      cases hlast
      rw [hobj]
      exact hs.closing t f r _ (mem_of_head hthread) (Or.inr rfl)
    · exact hbefore post' hold

omit honOwner in
theorem Sends.run_chunks {rest : Bytes} {inCopy : Bool}
    (hmem : (f, .chunk r rest inCopy) ∈ s₁.output) : (s₁.obj r).owned = true := by
  refine (h.keeps hw hthread r).owned ?_
  rcases h.mem_output hmem with hmem | rfl
  · exact hs.chunks f r rest inCopy hmem
  · exact hs.owned t _ (mem_of_head hthread) r
      (by simp [Act.onWriter, Act.writes])

omit honOwner in
theorem Sends.run_written (hr : (s₁.obj r).written ≠ []) : (s₁.obj r).owned = true := by
  refine (h.keeps hw hthread r).owned ?_
  by_cases ha : a.writes r = true
  · exact hs.owned t a (mem_of_head hthread) r
      (by rw [Act.onWriter, ha, Bool.true_or])
  · rw [h.written_eq hw hthread (Bool.eq_false_of_not_eq_true ha)] at hr
    exact hs.written r hr

/-- **A section keeps the sending side in order.** -/
theorem Sends.run : (s₁.goto t acts).Sends where
  last _ _ hb _ := Sends.run_last hs hthread h hb
  owned _ _ hb _ hr := (Sends.run_owned hs hw hthread h hb hr :)
  localOpen _ _ hb _ hr := (Sends.run_localOpen hs honOwner hw hthread h hb hr :)
  written _ hr := (Sends.run_written hs hw hthread h hr :)
  chunks _ _ _ _ hmem := (Sends.run_chunks hs hw hthread h hmem :)
  flows r := Sends.run_flows hs honOwner hw hthread h r
  closing _ _ _ _ hb hf := (Sends.run_closing hs honOwner hw hthread h hb hf :)
  closed _ _ _ _ hout := (Sends.run_closed hs hw hthread h hout :)

end Preservation

/-! ## Calls -/

theorem Called.onWriter (h : Called json s op s₁ acts) (hd : s.disciplined (.call t op) = true) :
    (∀ b ∈ acts.dropLast, ∀ r, b.onWriter r = false) ∧ ∀ b ∈ acts, ∀ r, b.onWriter r = true →
      (s.obj r).owned = true ∧ (b.writes r = true → (s.obj r).localEOF = false) := by
  cases h <;> simp_all [disciplined, Act.onWriter, Act.writes, Act.closes]

theorem Called.writes_mem (h : Called json s op s₁ acts)
    (hb : b ∈ (s₁.goto t acts).threads u) (hf : b.writesFrame f purpose) :
    b ∈ s.threads u ∨
    (purpose = .control ∧ ¬ (frameOpen ≤ f.type ∧ f.type ≤ frameError)) ∨
    ∃ r ack, purpose = .rejecting r ∧ (s.obj r).owned = true ∧ f = ackFrame json (s.obj r).id ack := by
  rcases h.mem_threads hb with hmem | ⟨-, hacts⟩ | ⟨-, rfl⟩ | ⟨-, rfl⟩
  · exact Or.inl hmem
  · refine Or.inr ?_
    clear hb
    cases h with
    | writeJSON htype =>
      rw [List.mem_singleton] at hacts
      subst hacts
      rcases hf with hf | hf <;> cases hf
      exact Or.inl ⟨rfl, htype⟩
    | reject howned =>
      simp only [List.mem_cons, List.not_mem_nil, or_false] at hacts
      rcases hacts with rfl | rfl
      · rcases hf with hf | hf <;> cases hf
        exact Or.inr ⟨_, _, rfl, howned, rfl⟩
      · rcases hf with hf | hf <;> cases hf
    | _ => rcases hf with rfl | rfl <;> simp at hacts
  · rcases hf with hf | hf <;> cases hf
  · rcases hf with hf | hf <;> cases hf

/-- What a call leaves of the sending side. -/
theorem Called.fields (hw : s.Wf) (h : Called json s op s₁ acts) (r : Ref) :
    (s₁.obj r).owned = (s.obj r).owned ∧ (s₁.obj r).closed = (s.obj r).closed ∧
      (s₁.obj r).localEOF = (s.obj r).localEOF ∧ ((s₁.obj r).written = (s.obj r).written ∨
        ∃ p, op = .write r p ∧ (s₁.obj r).written = (s.obj r).written ++ p) := by
  by_cases hr : r < s.count
  · obtain ⟨p, hobj, hwritten⟩ := h.obj_eq hr
    rw [hobj]
    exact ⟨rfl, rfl, rfl, hwritten⟩
  · obtain ⟨n, id, request, born, hnew⟩ := h.new_obj hw (Nat.le_of_not_lt hr)
    rw [hnew, hw.fresh r (Nat.le_of_not_lt hr)]
    exact ⟨rfl, rfl, rfl, Or.inl rfl⟩

theorem Called.threads_of_ne (h : Called json s op s₁ acts) (hu : u ≠ t)
    (hcalls : u.calls = true) : (s₁.goto t acts).threads u = s.threads u := by
  rw [goto_threads_of_ne _ _ hu]
  rcases h.threads with heq | ⟨-, heq⟩
  · rw [heq]
  · rw [heq, Function.update_of_ne, Function.update_of_ne]
    · rintro rfl
      cases hcalls
    · rintro rfl
      cases hcalls

theorem Called.unsent_eq (h : Called json s op s₁ acts) (hidle : s.threads t = [])
    (hop : ∀ p, op ≠ .write r p) :
    (s₁.goto t acts).unsent r = s.unsent r ∧ (s₁.goto t acts).inFlight r = s.inFlight r := by
  by_cases ht : Tid.writer r = t
  · subst ht
    simp only [unsent, inFlight, hidle, goto_threads_self]
    cases h with
    | @write q p _ =>
      have hq : q ≠ r := by
        rintro rfl
        exact hop p rfl
      simp [Act.unsent, Act.inFlight, hq]
    | _ => exact ⟨rfl, rfl⟩
  · exact unsent_eq_of_threads (h.threads_of_ne ht rfl)

theorem Called.sent_eq (h : Called json s op s₁ acts) : s₁.sent r = s.sent r := by
  rw [sent, h.streams_eq.2.1, sent]

theorem Sends.call_flows (hs : s.Sends) (hw : s.Wf) (hidle : s.threads t = [])
    (h : Called json s op s₁ acts) (hd : s.disciplined (.call t op) = true) (r : Ref) :
    (s₁.goto t acts).Flows r := by
  by_cases hop : ∃ p, op = .write r p
  · obtain ⟨p, rfl⟩ := hop
    simp only [disciplined, Bool.and_eq_true, decide_eq_true_eq] at hd
    obtain ⟨rfl, -⟩ := hd
    obtain ⟨hflow, horder⟩ := hs.flows r
    simp only [Stopped, unsent, inFlight, hidle, List.append_nil, List.not_mem_nil, exists_false,
      or_false, Bool.not_eq_true] at hflow horder
    cases h with
    | write _ =>
      refine flows_goto (fun hopen => ?_) ?_
      · simp only [modify, Function.update_self] at hopen ⊢
        rw [← hflow hopen]
        simp [Act.unsent]
        rfl
      · simp only [modify, Function.update_self]
        exact (List.append_nil _).symm ▸ horder.trans (List.prefix_append ..)
  · have hne : ∀ p, op ≠ .write r p := fun p hp => hop ⟨p, hp⟩
    obtain ⟨-, hclosed, -, heq | ⟨p, hp, -⟩⟩ := h.fields hw r
    · refine (hs.flows r).congr (h.unsent_eq hidle hne) h.sent_eq heq ?_
      rintro (hstop | ⟨err, hforce⟩)
      · exact Or.inl (by rw [goto_obj, hclosed]; exact hstop)
      · refine Or.inr ⟨err, ?_⟩
        rw [h.threads_of_ne _ rfl]
        · exact hforce
        · rintro rfl
          rw [hidle] at hforce
          cases hforce
    · exact absurd hp (hne p)

/-- **A disciplined call keeps the sending side in order.** -/
theorem Sends.call (hs : s.Sends) (hw : s.Wf) (hidle : s.threads t = [])
    (h : Called json s op s₁ acts) (hd : s.disciplined (.call t op) = true) :
    (s₁.goto t acts).Sends := by
  obtain ⟨hlast, hnew⟩ := h.onWriter hd
  have hout : s₁.output = s.output := h.streams_eq.2.1
  have hmem : ∀ {u b r}, b ∈ (s₁.goto t acts).threads u → b.onWriter r = true →
      b ∈ s.threads u ∨ b ∈ acts := by
    intro u b r hb hr
    rcases h.mem_threads hb with hb | ⟨-, hb⟩ | ⟨-, rfl⟩ | ⟨-, rfl⟩
    · exact Or.inl hb
    · exact Or.inr hb
    · cases hr
    · cases hr
  -- a `Write` comes before `CloseWrite`
  have hwritten : ∀ {r}, (s.obj r).localEOF = true → (s₁.obj r).written = (s.obj r).written := by
    intro r hlocal
    obtain ⟨-, -, -, heq | ⟨p, rfl, -⟩⟩ := h.fields hw r
    · exact heq
    · simp [disciplined, hlocal] at hd
  refine ⟨?_, ?_, ?_, ?_, ?_, ?_, ?_, ?_⟩
  · -- last
    intro u b hb r
    rcases h.thread_cases u with heq | ⟨-, heq⟩ | ⟨-, heq⟩ | ⟨-, heq⟩ <;> rw [heq] at hb
    · exact hs.last u b hb r
    · exact hlast b hb r
    · cases hb
    · cases hb
  · -- owned
    intro u b hb r hr
    rw [goto_obj, (h.fields hw r).1]
    rcases hmem hb hr with hb | hb
    · exact hs.owned u b hb r hr
    · exact (hnew b hb r hr).1
  · -- localOpen
    intro u b hb r hr
    have honw : b.onWriter r = true := by rw [Act.onWriter, hr, Bool.true_or]
    rw [goto_obj, (h.fields hw r).2.2.1]
    rcases hmem hb honw with hb | hb
    · exact hs.localOpen u b hb r hr
    · exact (hnew b hb r honw).2 hr
  · -- written
    intro r hr
    obtain ⟨howned, -, -, heq | ⟨p, rfl, -⟩⟩ := h.fields hw r
    · rw [goto_obj, heq] at hr
      rw [goto_obj, howned]
      exact hs.written r hr
    · rw [goto_obj, howned]
      cases h with
      | write hheld => exact hheld
  · -- chunks
    intro f r rest inCopy hmem
    rw [goto_obj, (h.fields hw r).1]
    rw [goto_output, hout] at hmem
    exact hs.chunks f r rest inCopy hmem
  · exact hs.call_flows hw hidle h hd
  · -- closing
    intro u f r b hb hf
    have hold : b ∈ s.threads u := by
      rcases h.writes_mem hb hf with hb | ⟨hp, -⟩ | ⟨_, _, hp, -⟩
      · exact hb
      · cases hp
      · cases hp
    obtain ⟨hlocal, hdone⟩ := hs.closing u f r b hold hf
    obtain ⟨-, hclosed, hlocal', -⟩ := h.fields hw r
    rw [goto_obj, goto_sent, hclosed, hlocal', h.sent_eq, hwritten hlocal]
    exact ⟨hlocal, hdone⟩
  · -- closed
    intro pre f post r heq
    rw [goto_output, hout] at heq
    obtain ⟨hlocal, hdone⟩ := hs.closed pre f post r heq
    obtain ⟨-, hclosed, hlocal', -⟩ := h.fields hw r
    rw [goto_obj, hclosed, hlocal', hwritten hlocal]
    exact ⟨hlocal, hdone⟩

/-- **Every disciplined step keeps the sending side in order.** -/
theorem Sends.steps (hs : s.Sends) (ho : s.Owned) (hw : s.Wf) (h : Steps json s l s')
    (hd : s.disciplined l = true) : s'.Sends := by
  cases h with
  | call hcalls hidle h => exact hs.call hw hidle h hd
  | run hthread h => exact hs.run ho.onOwner hw hthread h

end Session

end LnProxy
