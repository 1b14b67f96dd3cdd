import LnProxy.Session.Ownership

set_option autoImplicit false

/-! # The receiving side of a stream

The bytes of a stream pass from the frame to `deliver`, through the bounded queue `reads` and the
partly read chunk `readBuf` to the caller of `Read`. `Received` is the conservation law of that path:
what was returned, buffered and is about to be queued is, in this order, the data of the frames
handled so far for the stream's id; and `Read` ends with `io.EOF` only where a `FrameClose` stood.
It needs one reader and that no data for an id comes before the id's stream (`FreshID`). -/

namespace LnProxy

open Protocol

/-- The bytes that arrived in the stream: returned by `Read`, in `readBuf`, or queued. -/
def Stream.buffered (x : Stream) : Bytes := x.got ++ x.readBuf ++ x.reads.buf.flatten

/-- The bytes a section is about to queue in stream `r`. -/
def Act.carries (r : Ref) : Act → Bytes
  | .deliver q data => if q = r then data else []
  | _ => []

theorem Act.carries_ne_nil {a : Act} {r : Ref} (h : a.carries r ≠ []) :
    ∃ data, a = .deliver r data ∧ a.carries r = data := by
  cases a with
  | deliver q data =>
    by_cases hq : q = r
    · exact ⟨data, by rw [hq], by simp [Act.carries, hq]⟩
    · simp [Act.carries, hq] at h
  | _ => exact absurd rfl h

namespace Session

variable {json : Codec} {s s' s₁ : Session} {t : Tid} {a : Act} {c : Choice} {k acts : List Act}
  {l : Label} {op : Op} {r : Ref}

/-- The frames handled so far. -/
def frames (s : Session) : List Frame := s.input.map Prod.fst

/-- The bytes the read loop is about to queue in stream `r`. -/
def pending (s : Session) (r : Ref) : Bytes :=
  match s.threads .readLoop with
  | a :: _ => a.carries r
  | [] => []

/-- A `FrameClose` for stream `r` was handled, and what arrived in the stream is the data before
    it. -/
def Ends (s : Session) (r : Ref) : Prop :=
  ∃ pre f post, s.frames = pre ++ f :: post ∧ f.type = frameClose ∧ f.id = (s.obj r).id ∧
    (s.obj r).buffered = dataOf (s.obj r).id pre

structure Received (s : Session) : Prop where
  /-- `Read` waits for a chunk only when it has used up the last one. -/
  drained : ∀ t r n, .readSelect r n ∈ s.threads t → (s.obj r).readBuf = []
  /-- What arrived in a stream is what its frames carried, in order. -/
  arrived : ∀ r < s.count, (s.obj r).buffered <+: dataOf (s.obj r).id s.frames
  /-- So is what comes next, as long as it can be queued. -/
  next : ∀ r < s.count, (s.obj r).reads.closed = false →
    (s.obj r).buffered ++ s.pending r <+: dataOf (s.obj r).id s.frames
  /-- A stream in the map has missed nothing. -/
  complete : ∀ r < s.count, s.streams (s.obj r).id = some r → (s.obj r).reads.closed = false →
    (s.obj r).buffered ++ s.pending r = dataOf (s.obj r).id s.frames
  /-- The read loop closes a stream because of a frame. -/
  closing : ∀ t r, .remoteClose r ∈ s.threads t → (s.obj r).remoteEOF = false → s.Ends r
  /-- The end of an open stream stood in a frame. -/
  ended : ∀ r < s.count, (s.obj r).remoteEOF = true → (s.obj r).closed = false → s.Ends r
  /-- `Read` returns `io.EOF` at that end. -/
  eof : ∀ r < s.count, (s.obj r).gotEOF = true → (s.obj r).readBuf = [] ∧
    (s.obj r).reads.buf = [] ∧ (s.obj r).reads.closed = true ∧ s.Ends r

theorem new_received (bufferSize : Nat) : (Session.new bufferSize).Received where
  drained := by simp [Session.new]
  arrived := by simp [Session.new]
  next := by simp [Session.new]
  complete := by simp [Session.new]
  closing := by simp [Session.new]
  ended := by simp [Session.new]
  eof := by simp [Session.new]

/-! ## What a section does to the bytes of a stream -/

theorem pending_cons (hthread : s.threads .readLoop = a :: k) : s.pending r = a.carries r := by
  simp [pending, hthread]

theorem Wf.pending_eq_nil (hw : s.Wf) (hr : s.count ≤ r) : s.pending r = [] := by
  by_contra hne
  unfold pending at hne
  split at hne
  · next a k hthread =>
    obtain ⟨data, rfl, -⟩ := Act.carries_ne_nil hne
    have hlt := hw.refs .readLoop _ (mem_of_head hthread) r
      (by simp [Act.refs])
    exact absurd hlt (Nat.not_lt.2 hr)
  · exact hne rfl

theorem Ran.input (h : Ran json s t k a c s₁ acts) : s₁.input = s.input ∨
    ∃ frame tag, a = .handle frame ∧ s₁.input = s.input ++ [(frame, tag)] := by
  cases h with
  | handle h => cases h <;> exact Or.inr ⟨_, _, rfl, rfl⟩
  | _ => exact Or.inl rfl

/-- A stream that was not there before the step is as `newStream` made it. -/
theorem Ran.new_obj (hw : s.Wf) (hthread : s.threads t = a :: k) (h : Ran json s t k a c s₁ acts)
    (hr : s.count ≤ r) : ∃ n id request born,
      s₁.obj r = { newStream n id with request := request, born := born } := by
  have hamem := mem_of_head hthread
  cases hw.changed hthread h r with
  | same heq => exact ⟨0, 0, _, _, heq.trans (hw.fresh r hr)⟩
  | evolves hmem _ =>
    have hlt : r < s.count := hmem.elim (hw.refs t a hamem r) (hw.incoming r)
    exact absurd hlt (Nat.not_lt.2 hr)
  | alloc _ _ h => exact ⟨_, h⟩

section Bytes

variable (h : Ran json s t k a c s₁ acts) (hr : r < s.count)

include h hr

/-- Bytes move through a stream; only `deliver` adds some. -/
theorem Ran.buffered (hdrained : ∀ n, a = .readSelect r n → (s.obj r).readBuf = []) :
    (s₁.obj r).buffered = (s.obj r).buffered ∨ ∃ data, a = .deliver r data ∧
      (s.obj r).reads.closed = false ∧ (s₁.obj r).buffered = (s.obj r).buffered ++ data := by
  have htouched := h.touched r
  generalize s₁.obj r = y at htouched ⊢
  cases htouched with
  | new hcount => exact absurd hcount (Nat.ne_of_gt hr)
  | chunk hbuf => exact Or.inl (by simp [Stream.buffered, hdrained _ rfl, hbuf])
  | delivered hopen hfull =>
    exact Or.inr ⟨_, rfl, hopen, by simp [Stream.buffered, Chan.push_buf hfull]⟩
  | forceClosed _ =>
    refine Or.inl ?_
    by_cases heof : (s.obj r).remoteEOF = true <;> simp [Stream.buffered, Stream.forceClose, heof]
  | copied => exact Or.inl (by simp [Stream.buffered, Stream.copyOut])
  | _ => exact Or.inl rfl

theorem Ran.readBuf :
    (s₁.obj r).readBuf = (s.obj r).readBuf ∨ ∃ n, a = .read r n ∨ a = .readSelect r n := by
  have htouched := h.touched r
  generalize s₁.obj r = y at htouched ⊢
  cases htouched with
  | new hcount => exact absurd hcount (Nat.ne_of_gt hr)
  | @copied n => exact Or.inr ⟨n, Or.inl rfl⟩
  | @chunk n _ _ _ => exact Or.inr ⟨n, Or.inr rfl⟩
  | _ => exact Or.inl rfl

/-- A closed queue that is used up stays so. -/
theorem Ran.used_up (hread : (s.obj r).readBuf = []) (hbuf : (s.obj r).reads.buf = [])
    (hclosed : (s.obj r).reads.closed = true) :
    (s₁.obj r).readBuf = [] ∧ (s₁.obj r).reads.buf = [] := by
  have htouched := h.touched r
  generalize s₁.obj r = y at htouched ⊢
  cases htouched with
  | new hcount => exact absurd hcount (Nat.ne_of_gt hr)
  | delivered hopen _ =>
    rw [hclosed] at hopen
    cases hopen
  | chunk hchunk =>
    rw [hbuf] at hchunk
    cases hchunk
  | forceClosed _ =>
    by_cases heof : (s.obj r).remoteEOF = true <;> simp [Stream.forceClose, heof, hread, hbuf]
  | copied => simp [Stream.copyOut, hread, hbuf]
  | _ => exact ⟨hread, hbuf⟩

/-- An open stream comes to its end through `remoteClose`. -/
theorem Ran.remoteEOF_open (heof : (s₁.obj r).remoteEOF = true) (hclosed : (s₁.obj r).closed = false) :
    (s.obj r).closed = false ∧
      ((s.obj r).remoteEOF = true ∨ a = .remoteClose r ∧ (s.obj r).remoteEOF = false) := by
  have htouched := h.touched r
  generalize s₁.obj r = y at htouched heof hclosed
  cases htouched with
  | new hcount => exact absurd hcount (Nat.ne_of_gt hr)
  | remoteEOF hbefore => exact ⟨hclosed, Or.inr ⟨rfl, hbefore⟩⟩
  | forceClosed _ => cases hclosed
  | _ => exact ⟨hclosed, Or.inl heof⟩

theorem Ran.gotEOF (heof : (s₁.obj r).gotEOF = true) : (s.obj r).gotEOF = true ∨
      (∃ n, a = .readSelect r n) ∧ (s.obj r).reads.buf = [] ∧ (s.obj r).reads.closed = true ∧
        (s.obj r).readErr = none ∧ s₁.obj r = { s.obj r with gotEOF := true } := by
  have htouched := h.touched r
  generalize s₁.obj r = y at htouched heof ⊢
  cases htouched with
  | new hcount => exact absurd hcount (Nat.ne_of_gt hr)
  | @gotEOF n hbuf hclosed herr => exact Or.inr ⟨⟨n, rfl⟩, hbuf, hclosed, herr, rfl⟩
  | _ => exact Or.inl heof

end Bytes

/-! ## The switch -/

theorem Ran.input_handle {frame : Frame} (h : Ran json s t k (.handle frame) c s₁ acts) :
    ∃ tag, s₁.input = s.input ++ [(frame, tag)] := by
  cases h with
  | moves h => cases h
  | handle h => cases h <;> exact ⟨_, rfl⟩

/-- A `FrameData` goes to the stream found in the map; without one the map stays as it is. -/
theorem Handled.data_cases {frame : Frame} (h : Handled json s k frame s₁ acts)
    (htype : frame.type = frameData) :
    (∃ r, s.streams frame.id = some r ∧ s₁ = s.note frame (some r) ∧
        acts = .deliver r frame.payload :: k) ∨
      s.streams frame.id = none ∧ s₁ = s.note frame none := by
  cases h with
  | data _ hr => exact Or.inl ⟨_, hr, rfl, rfl⟩
  | unknownData _ hnone => exact Or.inr ⟨hnone, rfl⟩
  | unexpectedControl _ _ hdata _ | control _ _ hdata _ => exact absurd htype hdata
  | unknown htype' _ =>
    rw [htype] at htype'
    exact absurd htype' (by decide)
  | openInvalid htype' _ | openClosed htype' _ _ | openNew htype' _ _ | ackInvalid htype'
  | ack htype' _ | close htype' _ | error htype' _ =>
    rw [htype] at htype'
    exact absurd htype' (by decide)

/-! ## Preservation -/

section Preservation

variable (hrec : s.Received) (hw : s.Wf) (hthread : s.threads t = a :: k)
  (h : Ran json s t k a c s₁ acts)

include hrec hw hthread h

omit hrec hw hthread h in
theorem pending_eq_nil (hfollows : ∀ b ∈ acts, b.follows = true) :
    (s₁.goto .readLoop acts).pending r = [] := by
  cases acts with
  | nil => simp [Session.pending]
  | cons b rest =>
    rw [pending_cons (by rw [goto_threads_self])]
    by_contra hne
    obtain ⟨data, rfl, -⟩ := Act.carries_ne_nil hne
    have := hfollows _ (List.mem_cons_self ..)
    cases this

omit hrec in
/-- What the read loop is about to queue once it has run a section that is not the switch. -/
theorem Ran.pending (hne : ∀ frame, a ≠ .handle frame) (r : Ref) :
    (s₁.goto t acts).pending r = s.pending r ∨ t = .readLoop ∧ (s₁.goto t acts).pending r = [] := by
  by_cases ht : Tid.readLoop = t
  · subst ht
    by_cases hnil : (s₁.goto .readLoop acts).pending r = []
    · exact Or.inr ⟨rfl, hnil⟩
    · refine Or.inl ?_
      cases acts with
      | nil => simp [Session.pending] at hnil
      | cons b rest =>
        rw [pending_cons (by rw [goto_threads_self])] at hnil ⊢
        obtain ⟨data, rfl, -⟩ := Act.carries_ne_nil hnil
        have hmem : .deliver r data ∈ (s₁.goto .readLoop (.deliver r data :: rest)).threads
            .readLoop := by simp
        rw [pending_cons hthread]
        rcases h.mem_threads hthread hmem with hmem | ⟨-, hpushed⟩ | ⟨q, hq, -⟩
        · rw [hw.head_eq hthread hmem rfl]
        · rcases hpushed.deliver r data rfl with heq | ⟨frame, heq, -⟩
          · rw [heq]
          · exact absurd heq (hne frame)
        · cases hq
  · refine Or.inl ?_
    simp only [Session.pending]
    rw [h.threads_of_ne ht (by simp)]

/-- Outside the switch, the bytes of a stream move on together, unless its queue is closed. -/
theorem Received.flow (hne : ∀ frame, a ≠ .handle frame) (hr : r < s.count) :
    (s₁.obj r).buffered ++ (s₁.goto t acts).pending r = (s.obj r).buffered ++ s.pending r ∨
      (s.obj r).reads.closed = true ∧ (s₁.obj r).buffered = (s.obj r).buffered := by
  have hamem := mem_of_head hthread
  have hdrained : ∀ n, a = .readSelect r n → (s.obj r).readBuf = [] :=
    fun n hn => hrec.drained t r n (hn ▸ hamem)
  by_cases hdel : ∃ data, a = .deliver r data
  · obtain ⟨data, rfl⟩ := hdel
    have ht : t = .readLoop := by simpa [Act.runsOn] using hw.runsOn t _ hamem
    subst ht
    have hbefore : s.pending r = data := by rw [pending_cons hthread]; simp [Act.carries]
    have hk : ∀ b ∈ k, b.follows = true := fun b hb => hw.follows .readLoop b (by rw [hthread]; exact hb)
    cases h with
    | moves h =>
      cases h with
      | deliverEmpty =>
        refine Or.inl ?_
        rw [pending_eq_nil (by simpa using hk), hbefore]
      | deliverDone hdata hdone =>
        have heof := (hw.ok r).closedEOF ((hw.ok r).done hdone)
        exact Or.inr ⟨hw.reads_closed hthread (by simp) heof, rfl⟩
    | deliver hdata hopen hfull =>
      refine Or.inl ?_
      rw [pending_eq_nil hk, hbefore]
      simp [modify, Stream.buffered, Chan.push_buf hfull]
    | deliverPanic hdata hclosed => exact Or.inr ⟨hclosed, rfl⟩
  · have hbuf : (s₁.obj r).buffered = (s.obj r).buffered := by
      rcases h.buffered hr hdrained with heq | ⟨data, heq, -⟩
      · exact heq
      · exact absurd ⟨data, heq⟩ hdel
    refine Or.inl ?_
    rw [hbuf]
    rcases Ran.pending hw hthread h hne r with heq | ⟨rfl, heq⟩
    · rw [heq]
    · rw [heq, pending_cons hthread]
      by_contra hcontra
      have hcar : a.carries r ≠ [] := fun h0 => hcontra (by rw [h0])
      obtain ⟨data, heq, -⟩ := Act.carries_ne_nil hcar
      exact hdel ⟨data, heq⟩

omit hrec in
/-- What the read loop is about to queue after the switch. -/
theorem pending_handle {frame : Frame} (ha : a = .handle frame) : t = .readLoop ∧
    s.pending r = [] ∧ (s₁.goto t acts).pending r =
      if frame.type = frameData ∧ s.streams frame.id = some r then frame.payload else [] := by
  subst ha
  have ht : t = .readLoop :=
    of_decide_eq_true (hw.runsOn t (.handle frame) (mem_of_head hthread))
  subst ht
  refine ⟨rfl, by rw [pending_cons hthread]; rfl, ?_⟩
  split
  · next hdata =>
    cases h with
    | moves h => cases h
    | handle h =>
      rcases h.data_cases hdata.1 with ⟨q, hq, -, rfl⟩ | ⟨hnone, -⟩
      · obtain rfl := Option.some.inj (hdata.2.symm.trans hq)
        rw [pending_cons (by rw [goto_threads_self])]
        simp [Act.carries]
      · rw [hdata.2] at hnone
        cases hnone
  · next hother =>
    by_contra hne
    cases acts with
    | nil => simp [Session.pending] at hne
    | cons b rest =>
      rw [pending_cons (by rw [goto_threads_self])] at hne
      obtain ⟨data, rfl, -⟩ := Act.carries_ne_nil hne
      have hmem : .deliver r data ∈ (s₁.goto .readLoop (.deliver r data :: rest)).threads
          .readLoop := by simp
      rcases h.mem_threads hthread hmem with hmem | ⟨-, hpushed⟩ | ⟨q, hq, -⟩
      · have := hw.head_eq hthread hmem rfl
        cases this
      · rcases hpushed.deliver r data rfl with heq | ⟨frame', heq, htype, -, hr, -⟩
        · cases heq
        · cases heq
          exact hother ⟨htype, hr⟩
      · cases hq

theorem Received.run_drained (honOwner : ∀ t, ∀ a ∈ s.threads t, a.onOwner t = true) {u : Tid}
    {n : Nat} (hb : .readSelect r n ∈ (s₁.goto t acts).threads u) : (s₁.obj r).readBuf = [] := by
  rcases h.mem_acts hb with ⟨hu, hmem⟩ | ⟨rfl, hacts⟩ | ⟨q, -, heq, -⟩
  · have hlt : r < s.count := hw.refs u _ hmem r (by simp [Act.refs])
    rcases h.readBuf hlt with heq | ⟨m, ha⟩
    · rw [heq]
      exact hrec.drained u r n hmem
    · -- both goroutines would be the stream's reader
      have hown := honOwner u _ hmem
      have hown' := honOwner t a (mem_of_head hthread)
      rcases ha with rfl | rfl <;>
        simp only [Act.onOwner, decide_eq_true_eq] at hown hown' <;>
        exact absurd (hown.trans hown'.symm) hu
  · obtain ⟨new, rest, rfl, hrest, -, hnew⟩ := h.pushed
    rcases List.mem_append.1 hacts with hb | hb
    · exact (hnew _ hb).readSelect r n rfl
    · rcases hrest with rfl | ⟨rfl, -⟩
      · have := hw.follows u _ (by rw [hthread]; exact hb)
        cases this
      · cases hb
  · cases heq

omit hrec hw hthread in
theorem Ran.frames_prefix : s.frames <+: (s₁.goto t acts).frames := by
  simp only [frames, goto_input]
  rcases h.input with heq | ⟨frame, tag, -, heq⟩
  · exact heq ▸ List.prefix_rfl
  · rw [heq, List.map_append]
    exact List.prefix_append ..

theorem Received.run_arrived (r : Ref) :
    (s₁.obj r).buffered <+: dataOf (s₁.obj r).id (s₁.goto t acts).frames := by
  by_cases hlt : r < s.count
  · have hmono : dataOf (s.obj r).id s.frames <+: dataOf (s₁.obj r).id (s₁.goto t acts).frames := by
      rw [h.id_eq hw hthread hlt]
      exact dataOf_isPrefix _ (h.frames_prefix)
    refine List.IsPrefix.trans ?_ hmono
    by_cases hhandle : ∃ frame, a = .handle frame
    · obtain ⟨frame, rfl⟩ := hhandle
      rcases h.buffered hlt (by simp) with heq | ⟨data, heq, -⟩
      · rw [heq]
        exact hrec.arrived r hlt
      · cases heq
    · rcases Received.flow hrec hw hthread h (fun frame hf => hhandle ⟨frame, hf⟩) hlt with
        heq | ⟨-, heq⟩
      · by_cases hopen : (s.obj r).reads.closed = false
        · refine List.IsPrefix.trans ?_ (hrec.next r hlt hopen)
          rw [← heq]
          exact List.prefix_append ..
        · have hdrained : ∀ n, a = .readSelect r n → (s.obj r).readBuf = [] := fun n hn =>
            hrec.drained t r n (by rw [hthread, hn]; exact List.mem_cons_self ..)
          rcases h.buffered hlt hdrained with heq | ⟨data, -, hopen', -⟩
          · rw [heq]
            exact hrec.arrived r hlt
          · exact absurd hopen' hopen
      · rw [heq]
        exact hrec.arrived r hlt
  · obtain ⟨n, id, request, born, hnew⟩ := h.new_obj hw hthread (Nat.le_of_not_lt hlt)
    rw [hnew]
    exact List.nil_prefix

omit hrec in
theorem Ran.reads_open (hopen : (s₁.obj r).reads.closed = false) :
    (s.obj r).reads.closed = false :=
  false_of_imp (h.keeps hw hthread r).reads hopen

/-- A stream in the map misses nothing of the frame in the switch. -/
theorem Received.handle_complete {frame : Frame} (ha : a = .handle frame) (hr : r < s.count)
    (hreg : s.streams (s.obj r).id = some r) (hopen : (s.obj r).reads.closed = false) :
    (s₁.obj r).buffered ++ (s₁.goto t acts).pending r =
      dataOf (s₁.obj r).id (s₁.goto t acts).frames := by
  subst ha
  obtain ⟨-, hbefore, hafter⟩ := pending_handle (r := r) hw hthread h rfl
  obtain ⟨tag, hinput⟩ := h.input_handle
  have hbuf : (s₁.obj r).buffered = (s.obj r).buffered := by
    rcases h.buffered hr (by simp) with heq | ⟨data, heq, -⟩
    · exact heq
    · cases heq
  have hall := hrec.complete r hr hreg hopen
  rw [hbefore, List.append_nil] at hall
  have hframes : (s₁.goto t acts).frames = s.frames ++ [frame] := by
    simp [frames, hinput]
  rw [hbuf, hafter, hframes, h.id_eq hw hthread hr, dataOf_concat, hall]
  congr 1
  by_cases htype : frame.type = frameData
  · have hiff : s.streams frame.id = some r ↔ frame.id = (s.obj r).id := by
      constructor
      · exact fun hq => (hw.streams _ _ hq).2.symm
      · intro hid
        rw [hid]
        exact hreg
    simp only [htype, hiff, true_and]
  · simp [htype]

theorem Received.run_next (hopen : (s₁.obj r).reads.closed = false) :
    (s₁.obj r).buffered ++ (s₁.goto t acts).pending r <+:
      dataOf (s₁.obj r).id (s₁.goto t acts).frames := by
  by_cases hlt : r < s.count
  · have hbefore := Ran.reads_open hw hthread h hopen
    by_cases hhandle : ∃ frame, a = .handle frame
    · obtain ⟨frame, rfl⟩ := hhandle
      obtain ⟨-, -, hafter⟩ := pending_handle (r := r) hw hthread h rfl
      by_cases hfound : frame.type = frameData ∧ s.streams frame.id = some r
      · have hreg : s.streams (s.obj r).id = some r := by
          rw [(hw.streams _ _ hfound.2).2]
          exact hfound.2
        exact Received.handle_complete hrec hw hthread h rfl hlt hreg hbefore ▸ List.prefix_rfl
      · rw [hafter, if_neg hfound, List.append_nil]
        exact Received.run_arrived hrec hw hthread h r
    · rcases Received.flow hrec hw hthread h (fun frame hf => hhandle ⟨frame, hf⟩) hlt with
        heq | ⟨hclosed, -⟩
      · rw [heq, h.id_eq hw hthread hlt]
        exact (hrec.next r hlt hbefore).trans (dataOf_isPrefix _ (h.frames_prefix))
      · rw [hbefore] at hclosed
        cases hclosed
  · obtain ⟨n, id, request, born, hnew⟩ := h.new_obj hw hthread (Nat.le_of_not_lt hlt)
    have hpend : (s₁.goto t acts).pending r = [] := by
      by_cases hhandle : ∃ frame, a = .handle frame
      · obtain ⟨frame, rfl⟩ := hhandle
        rw [(pending_handle (r := r) hw hthread h rfl).2.2, if_neg]
        exact fun hfound => hlt (hw.streams _ _ hfound.2).1
      · rcases Ran.pending hw hthread h (fun frame hf => hhandle ⟨frame, hf⟩) r with heq | ⟨-, heq⟩
        · rw [heq, hw.pending_eq_nil (Nat.le_of_not_lt hlt)]
        · exact heq
    rw [hpend, hnew]
    exact List.nil_prefix

theorem Received.run_complete (hfresh : s.FreshID json (.run t c)) (hr : r < s₁.count)
    (hreg : s₁.streams (s₁.obj r).id = some r) (hopen : (s₁.obj r).reads.closed = false) :
    (s₁.obj r).buffered ++ (s₁.goto t acts).pending r =
      dataOf (s₁.obj r).id (s₁.goto t acts).frames := by
  have hnext := Received.run_next hrec hw hthread h hopen
  -- with no data for its id, a stream has missed nothing
  have hnone : dataOf (s₁.obj r).id (s₁.goto t acts).frames = [] → (s₁.obj r).buffered ++
      (s₁.goto t acts).pending r = dataOf (s₁.obj r).id (s₁.goto t acts).frames := by
    intro hnil
    rw [hnil] at hnext ⊢
    exact List.prefix_nil.1 hnext
  by_cases hlt : r < s.count
  · have hbefore := Ran.reads_open hw hthread h hopen
    rcases h.streams hreg with hreg | ⟨-, ⟨request, rfl⟩ | ⟨hcount, -⟩⟩
    · rw [h.id_eq hw hthread hlt] at hreg
      by_cases hhandle : ∃ frame, a = .handle frame
      · obtain ⟨frame, rfl⟩ := hhandle
        exact Received.handle_complete hrec hw hthread h rfl hlt hreg hbefore
      · have hne : ∀ frame, a ≠ .handle frame := fun frame hf => hhandle ⟨frame, hf⟩
        have hframes : (s₁.goto t acts).frames = s.frames := by
          rcases h.input with heq | ⟨frame, tag, hf, -⟩
          · simp [frames, heq]
          · exact absurd hf (hne frame)
        rcases Received.flow hrec hw hthread h hne hlt with heq | ⟨hclosed, -⟩
        · rw [heq, h.id_eq hw hthread hlt, hframes]
          exact hrec.complete r hlt hreg hbefore
        · rw [hbefore] at hclosed
          cases hclosed
    · -- `Open` enters the stream into the map
      have hgo : c = .go ∧ s₁.input = s.input := by
        cases h with
        | moves h => cases h; exact ⟨rfl, rfl⟩
        | openInsert _ _ => exact ⟨rfl, rfl⟩
      obtain ⟨rfl, hinput⟩ := hgo
      simp only [FreshID, hthread] at hfresh
      refine hnone (dataOf_eq_nil ?_)
      rw [h.id_eq hw hthread hlt]
      intro f hf htype
      simp only [frames, goto_input, hinput, List.mem_map] at hf
      obtain ⟨e, he, rfl⟩ := hf
      exact hfresh e he htype
    · exact absurd hlt (by lia)
  · rcases h.count_eq with hcount | ⟨rfl, frame, request, rfl, htype, hdecode, hcount, hnew⟩
    · exact absurd (hcount ▸ hr) hlt
    · -- the `FrameOpen` in the switch has made the stream
      obtain rfl : r = s.count := by lia
      obtain ⟨tag, hinput⟩ := h.input_handle
      simp only [FreshID, hthread] at hfresh
      refine hnone (dataOf_eq_nil ?_)
      rw [hnew]
      intro f hf hdata
      simp only [frames, goto_input, hinput, List.map_append, List.mem_append, List.mem_map,
        List.map_cons, List.map_nil, List.mem_singleton] at hf
      rcases hf with ⟨e, he, rfl⟩ | rfl
      · exact (hfresh htype request hdecode).2 e he hdata
      · rw [htype] at hdata
        exact absurd hdata (by decide)

omit hrec in
/-- The end of a stream stays where it is as long as nothing arrives. -/
theorem Ends.run (he : s.Ends r) (hr : r < s.count)
    (hbuf : (s₁.obj r).buffered = (s.obj r).buffered) : (s₁.goto t acts).Ends r := by
  obtain ⟨pre, f, post, hframes, htype, hid, heq⟩ := he
  obtain ⟨tail, htail⟩ := h.frames_prefix
  refine ⟨pre, f, post ++ tail, ?_, htype, ?_, ?_⟩
  · rw [← htail, hframes, List.append_assoc, List.cons_append]
  · rw [goto_obj, h.id_eq hw hthread hr, hid]
  · rw [goto_obj, hbuf, h.id_eq hw hthread hr, heq]

omit hw in
theorem Received.buffered_eq (hr : r < s.count)
    (hno : ∀ data, a = .deliver r data → (s.obj r).reads.closed = true) :
    (s₁.obj r).buffered = (s.obj r).buffered := by
  have hdrained : ∀ n, a = .readSelect r n → (s.obj r).readBuf = [] := fun n hn =>
    hrec.drained t r n (by rw [hthread, hn]; exact List.mem_cons_self ..)
  rcases h.buffered hr hdrained with heq | ⟨data, heq, hopen, -⟩
  · exact heq
  · rw [hno data heq] at hopen
    cases hopen

/-- Nothing arrives in a stream whose end was seen. -/
theorem Received.buffered_eq_of_eof (hr : r < s.count) (heof : (s.obj r).remoteEOF = true) :
    (s₁.obj r).buffered = (s.obj r).buffered := by
  refine Received.buffered_eq hrec hthread h hr ?_
  rintro data rfl
  have ht : t = .readLoop :=
    of_decide_eq_true (hw.runsOn t (.deliver r data) (mem_of_head hthread))
  subst ht
  exact hw.reads_closed hthread (by simp) heof

theorem Received.run_closing {u : Tid} (hb : .remoteClose r ∈ (s₁.goto t acts).threads u)
    (heof : (s₁.obj r).remoteEOF = false) : (s₁.goto t acts).Ends r := by
  rcases h.mem_threads hthread hb with hmem | ⟨rfl, hpushed⟩ | ⟨q, -, heq, -⟩
  · have hr : r < s.count := hw.refs u _ hmem r (by simp [Act.refs])
    have hbefore : (s.obj r).remoteEOF = false :=
      false_of_imp (h.keeps hw hthread r).remoteEOF heof
    refine Ends.run hw hthread h (hrec.closing u r hmem hbefore) hr ?_
    refine Received.buffered_eq hrec hthread h hr ?_
    rintro data rfl
    -- the read loop is at one section only
    have ht : t = .readLoop := of_decide_eq_true
      (hw.runsOn t (.deliver r data) (mem_of_head hthread))
    have hu : u = .readLoop := of_decide_eq_true (hw.runsOn u (.remoteClose r) hmem)
    subst ht hu
    have := hw.head_eq hthread hmem rfl
    cases this
  · obtain ⟨frame, rfl, htype, hfound, hobj⟩ := hpushed.remoteClose r rfl
    obtain ⟨hr, hid⟩ := hw.streams _ _ hfound
    obtain ⟨-, hpend, -⟩ := pending_handle (r := r) hw hthread h rfl
    obtain ⟨tag, hinput⟩ := h.input_handle
    have hopen : (s.obj r).reads.closed = false := (hw.ok r).reads_open (by rw [← hobj]; exact heof)
    have hall := hrec.complete r hr (by rw [hid]; exact hfound) hopen
    rw [hpend, List.append_nil] at hall
    refine ⟨s.frames, frame, [], ?_, htype, ?_, ?_⟩
    · simp [frames, hinput]
    · rw [goto_obj, hobj, hid]
    · rw [goto_obj, hobj]
      exact hall
  · cases heq

theorem Received.run_ended (heof : (s₁.obj r).remoteEOF = true)
    (hclosed : (s₁.obj r).closed = false) : (s₁.goto t acts).Ends r := by
  by_cases hr : r < s.count
  · obtain ⟨hopen, hbefore | ⟨rfl, hbefore⟩⟩ := h.remoteEOF_open hr heof hclosed
    · exact Ends.run hw hthread h (hrec.ended r hr hbefore hopen) hr
        (Received.buffered_eq_of_eof hrec hw hthread h hr hbefore)
    · refine Ends.run hw hthread h ?_ hr (Received.buffered_eq hrec hthread h hr (by simp))
      exact hrec.closing t r (mem_of_head hthread) hbefore
  · obtain ⟨n, id, request, born, hnew⟩ := h.new_obj hw hthread (Nat.le_of_not_lt hr)
    rw [hnew] at heof
    cases heof

theorem Received.run_eof (heof : (s₁.obj r).gotEOF = true) : (s₁.obj r).readBuf = [] ∧
    (s₁.obj r).reads.buf = [] ∧ (s₁.obj r).reads.closed = true ∧ (s₁.goto t acts).Ends r := by
  by_cases hr : r < s.count
  · have hkeeps := h.keeps hw hthread r
    rcases h.gotEOF hr heof with hbefore | ⟨⟨n, rfl⟩, hbuf, hclosed, herr, hobj⟩
    · obtain ⟨hread, hbuf, hclosed, hends⟩ := hrec.eof r hr hbefore
      obtain ⟨hread', hbuf'⟩ := h.used_up hr hread hbuf hclosed
      refine ⟨hread', hbuf', hkeeps.reads hclosed, Ends.run hw hthread h hends hr ?_⟩
      exact Received.buffered_eq hrec hthread h hr fun _ _ => hclosed
    · -- `Read` has found the queue closed and empty, and no error
      have hopen : (s.obj r).closed = false := by
        refine Bool.eq_false_of_not_eq_true fun hc => ?_
        exact (hw.ok r).readErr.1 hc herr
      have hread := hrec.drained t r n (mem_of_head hthread)
      refine ⟨by rw [hobj]; exact hread, by rw [hobj]; exact hbuf, hkeeps.reads hclosed, ?_⟩
      refine Ends.run hw hthread h (hrec.ended r hr ((hw.ok r).readsEOF hclosed) hopen) hr ?_
      exact Received.buffered_eq hrec hthread h hr (by simp)
  · obtain ⟨n, id, request, born, hnew⟩ := h.new_obj hw hthread (Nat.le_of_not_lt hr)
    rw [hnew] at heof
    cases heof

/-- **A section keeps the conservation law.** -/
theorem Received.run (honOwner : ∀ t, ∀ a ∈ s.threads t, a.onOwner t = true)
    (hfresh : s.FreshID json (.run t c)) : (s₁.goto t acts).Received where
  drained _ _ _ hb := (Received.run_drained hrec hw hthread h honOwner hb :)
  arrived r _ := Received.run_arrived hrec hw hthread h r
  next _ _ hopen := Received.run_next hrec hw hthread h hopen
  complete _ hr hreg hopen := Received.run_complete hrec hw hthread h hfresh hr hreg hopen
  closing _ _ hb heof := Received.run_closing hrec hw hthread h hb heof
  ended _ _ heof hclosed := Received.run_ended hrec hw hthread h heof hclosed
  eof _ _ heof := (Received.run_eof hrec hw hthread h heof :)

end Preservation

/-- **A call keeps the conservation law.** -/
theorem Received.call (hrec : s.Received) (hw : s.Wf) (hcalls : t.calls = true)
    (h : Called json s op s₁ acts) : (s₁.goto t acts).Received := by
  obtain ⟨hstreams, -, hinput⟩ := h.streams_eq
  have hframes : (s₁.goto t acts).frames = s.frames := by simp [frames, hinput]
  have hpending : ∀ r, (s₁.goto t acts).pending r = s.pending r := by
    intro r
    unfold pending
    rcases h.readLoop_eq hw hcalls with heq | ⟨hnil, heq⟩
    · rw [heq]
    · rw [heq, hnil]
      rfl
  have hends : ∀ {r}, r < s.count → s.Ends r → (s₁.goto t acts).Ends r := by
    intro r hr hends
    obtain ⟨p, hobj, -⟩ := h.obj_eq hr
    unfold Ends at hends ⊢
    rw [hframes, goto_obj, hobj]
    exact hends
  -- a stream that the call has made is empty
  have hnew : ∀ {r}, ¬ r < s.count → (s₁.obj r).buffered = [] ∧ (s₁.obj r).remoteEOF = false ∧
      (s₁.obj r).gotEOF = false := by
    intro r hr
    obtain ⟨n, id, request, born, hobj⟩ := h.new_obj hw (Nat.le_of_not_lt hr)
    rw [hobj]
    exact ⟨rfl, rfl, rfl⟩
  have hmem : ∀ {u r b}, b ∈ (s₁.goto t acts).threads u → r ∈ b.refs →
      (∃ n, b = .readSelect r n) ∨ b = .remoteClose r → b ∈ s.threads u ∧ r < s.count := by
    intro u r b hb hrefs hkind
    have hs : b ∈ s.threads u := by
      rcases h.mem_threads hb with hb | ⟨-, hacts⟩ | ⟨-, rfl⟩ | ⟨-, rfl⟩
      · exact hb
      · clear hb
        rcases hkind with ⟨n, rfl⟩ | rfl <;> cases h <;> simp at hacts
      · cases hrefs
      · cases hrefs
    exact ⟨hs, hw.refs u b hs r hrefs⟩
  refine ⟨?_, ?_, ?_, ?_, ?_, ?_, ?_⟩
  · intro u r n hb
    obtain ⟨hs, hr⟩ := hmem hb (by simp [Act.refs]) (Or.inl ⟨n, rfl⟩)
    obtain ⟨p, hobj, -⟩ := h.obj_eq hr
    rw [goto_obj, hobj]
    exact hrec.drained u r n hs
  · intro r _
    by_cases hr : r < s.count
    · obtain ⟨p, hobj, -⟩ := h.obj_eq hr
      rw [goto_obj, hobj, hframes]
      exact hrec.arrived r hr
    · rw [goto_obj, (hnew hr).1]
      exact List.nil_prefix
  · intro r _ hopen
    by_cases hr : r < s.count
    · obtain ⟨p, hobj, -⟩ := h.obj_eq hr
      rw [goto_obj, hobj] at hopen
      rw [goto_obj, hobj, hframes, hpending]
      exact hrec.next r hr hopen
    · rw [goto_obj, (hnew hr).1, hpending, hw.pending_eq_nil (Nat.le_of_not_lt hr)]
      exact List.nil_prefix
  · intro r _ hreg hopen
    rw [goto_streams, hstreams] at hreg
    have hr := (hw.streams _ _ hreg).1
    obtain ⟨p, hobj, -⟩ := h.obj_eq hr
    rw [goto_obj, hobj] at hreg hopen
    rw [goto_obj, hobj, hframes, hpending]
    exact hrec.complete r hr hreg hopen
  · intro u r hb heof
    obtain ⟨hs, hr⟩ := hmem hb (by simp [Act.refs]) (Or.inr rfl)
    obtain ⟨p, hobj, -⟩ := h.obj_eq hr
    rw [goto_obj, hobj] at heof
    exact hends hr (hrec.closing u r hs heof)
  · intro r _ heof hclosed
    by_cases hr : r < s.count
    · obtain ⟨p, hobj, -⟩ := h.obj_eq hr
      rw [goto_obj, hobj] at heof hclosed
      exact hends hr (hrec.ended r hr heof hclosed)
    · rw [goto_obj, (hnew hr).2.1] at heof
      cases heof
  · intro r _ heof
    by_cases hr : r < s.count
    · obtain ⟨p, hobj, -⟩ := h.obj_eq hr
      rw [goto_obj, hobj] at heof ⊢
      obtain ⟨hread, hbuf, hclosed, he⟩ := hrec.eof r hr heof
      exact ⟨hread, hbuf, hclosed, hends hr he⟩
    · rw [goto_obj, (hnew hr).2.2] at heof
      cases heof

/-- **Every disciplined step keeps the conservation law.** -/
theorem Received.steps (hrec : s.Received) (ho : s.Owned) (hw : s.Wf) (h : Steps json s l s')
    (hfresh : s.FreshID json l) : s'.Received := by
  cases h with
  | call hcalls hidle h => exact hrec.call hw hcalls h
  | run hthread h => exact hrec.run hw hthread h ho.onOwner hfresh

/-! ## What the reader sees -/

/-- **The bytes read are the first bytes of the frames' data.** -/
theorem Received.got_prefix (hrec : s.Received) (hr : r < s.count) :
    (s.obj r).got <+: dataOf (s.obj r).id s.frames := by
  refine List.IsPrefix.trans ?_ (hrec.arrived r hr)
  rw [Stream.buffered, List.append_assoc]
  exact List.prefix_append ..

/-- **`Read` returns `io.EOF` where a `FrameClose` stood**, after all the data before it. -/
theorem Received.got_of_eof (hrec : s.Received) (hr : r < s.count)
    (heof : (s.obj r).gotEOF = true) : ∃ pre f post, s.frames = pre ++ f :: post ∧
      f.type = frameClose ∧ f.id = (s.obj r).id ∧ (s.obj r).got = dataOf (s.obj r).id pre := by
  obtain ⟨hread, hbuf, -, pre, f, post, hframes, htype, hid, heq⟩ := hrec.eof r hr heof
  refine ⟨pre, f, post, hframes, htype, hid, ?_⟩
  rw [← heq, Stream.buffered, hread, hbuf]
  simp

end Session

end LnProxy
