import LnProxy.Session.Invariants

set_option autoImplicit false

/-! # Who works on a stream

A stream has one goroutine that writes to it and one that reads from it (`disciplined`); it is opened
by one call, or handed over once by the dispatch loop; and it stays in the map from its insertion to
its `forceClose` (`Listed.registered`). The last fact needs that no two streams of the session have
the same id, which is a condition on the steps (`newID`): the session itself does not check it. -/

namespace LnProxy

open Protocol

namespace Session

variable {json : Codec} {s s' s₁ : Session} {t : Tid} {a : Act} {c : Choice} {k acts : List Act}
  {l : Label} {op : Op} {r : Ref} {u : Tid} {b : Act}

/-! ## Conditions on steps -/

/-- One writer and one reader for each stream, and no `Write` or `Relay` after `CloseWrite`. -/
def disciplined (s : Session) : Label → Bool
  | .call t (.read r _) => decide (t = .reader r)
  | .call t (.write r _) | .call t (.relay r) => decide (t = .writer r) && !(s.obj r).localEOF
  | .call t (.closeWrite r) => decide (t = .writer r)
  | _ => true

/-- A new stream gets an id that no stream of the session has, and no data for its id was handled
    before it is in the map. -/
def FreshID (json : Codec) (s : Session) : Label → Prop
  | .call _ (.open request) => ∀ r < s.count, (s.obj r).id ≠ (s.openRequest request).requestID
  | .run t .go =>
    match s.threads t with
    | .handle frame :: _ => frame.type = frameOpen → ∀ request, decodeOpen json frame = .ok request →
        (∀ r < s.count, (s.obj r).id ≠ request.requestID) ∧
        ∀ e ∈ s.input, e.1.type = frameData → e.1.id ≠ request.requestID
    | .openInsert r _ :: _ => ∀ e ∈ s.input, e.1.type = frameData → e.1.id ≠ (s.obj r).id
    | _ => True
  | _ => True

/-- No stream of the session has the id. -/
def unused (s : Session) (i : UInt64) : Bool := (List.range s.count).all fun r => (s.obj r).id ≠ i

/-- A new stream gets an id that no stream of the session has. -/
def newID (json : Codec) (s : Session) : Label → Bool
  | .call _ (.open request) => s.unused (s.openRequest request).requestID
  | .run t .go =>
    match s.threads t with
    | .handle frame :: _ =>
      match decodeOpen json frame with
      | .ok request => decide (frame.type ≠ frameOpen) || s.unused request.requestID
      | .error _ => true
    | _ => true
  | _ => true

theorem unused_iff {i : UInt64} : s.unused i = true ↔ ∀ r < s.count, (s.obj r).id ≠ i := by
  simp [unused]

theorem FreshID.newID (h : s.FreshID json l) : s.newID json l = true := by
  unfold Session.newID
  split
  · exact unused_iff.2 h
  · split
    · next frame k hthread =>
      simp only [FreshID, hthread] at h
      split
      · next request hdecode =>
        by_cases htype : frame.type = frameOpen
        · rw [unused_iff.2 (h htype request hdecode).1, Bool.or_true]
        · simp [htype]
      · rfl
    · rfl
  · rfl

/-- The application has the stream, or will get it from the dispatch loop. -/
def Held (s : Session) (r : Ref) : Prop :=
  (s.obj r).owned = true ∨ r ∈ s.incoming.buf ∨ ∃ t, ∃ a ∈ s.threads t, a.hands r = true

/-- The stream is in use: its `Open` is past the insertion, or the application has it or will get
    it. -/
def Active (s : Session) (r : Ref) : Prop :=
  s.Held r ∨ ∃ t, ∃ a ∈ s.threads t, a.opens r = true ∧ ∀ request, a ≠ .openInsert r request

/-- Which streams are in the map, and who opens and removes them. -/
structure Listed (s : Session) : Prop where
  /-- Streams have different ids. -/
  ids : ∀ q < s.count, ∀ r < s.count, (s.obj q).id = (s.obj r).id → q = r
  /-- One goroutine opens a stream. -/
  unique : ∀ r t u, ∀ a ∈ s.threads t, ∀ b ∈ s.threads u, a.opens r = true → b.opens r = true →
    t = u
  /-- A stream that is being opened is not held. -/
  opening : ∀ r t, ∀ a ∈ s.threads t, a.opens r = true → ¬ s.Held r
  /-- A stream that is not in the map yet is known to nobody but its opener. -/
  inserting : ∀ t r request, .openInsert r request ∈ s.threads t →
    request.requestID = (s.obj r).id ∧ (∀ i, s.streams i ≠ some r) ∧
    (∀ e ∈ s.output, e.2 ≠ .opening r) ∧ (s.obj r).closed = false ∧
    ∀ u, ∀ b ∈ s.threads u, r ∈ b.refs → b = .openInsert r request
  /-- Only a closed stream, or one whose `Open` has failed, is removed. -/
  removing : ∀ t r, .removeStream r ∈ s.threads t → (s.obj r).closed = true ∨
    ¬ s.Held r ∧ ∀ u, ∀ b ∈ s.threads u, b.opens r = false
  /-- The map has every stream that is held or waits for its acknowledgement. -/
  registered : ∀ r < s.count, (s.obj r).closed = false → s.Active r →
    s.streams (s.obj r).id = some r

structure Owned (s : Session) : Prop extends Listed s where
  /-- Sections of `Read` and `Write` run where they belong. -/
  onOwner : ∀ t, ∀ a ∈ s.threads t, a.onOwner t = true

theorem new_listed (bufferSize : Nat) : (Session.new bufferSize).Listed where
  ids := by simp [Session.new]
  unique := by simp [Session.new]
  opening := by simp [Session.new]
  inserting := by simp [Session.new]
  removing := by simp [Session.new]
  registered := by simp [Session.new]

theorem new_owned (bufferSize : Nat) : (Session.new bufferSize).Owned where
  toListed := new_listed bufferSize
  onOwner := by simp [Session.new]

/-! ## What a section does to the map and to who holds a stream -/

theorem Held.lt (h : s.Held r) (hw : s.Wf) : r < s.count := by
  rcases h with howned | hincoming | ⟨t, a, ha, hhands⟩
  · exact hw.owned_lt howned
  · exact hw.incoming r hincoming
  · exact hw.refs t a ha r (Act.refs_of_hands hhands)

theorem Active.lt (h : s.Active r) (hw : s.Wf) : r < s.count := by
  rcases h with hheld | ⟨t, a, ha, hopens, -⟩
  · exact hheld.lt hw
  · exact hw.refs t a ha r (Act.refs_of_opens hopens)

theorem Ran.owned (h : Ran json s t k a c s₁ acts) (hr : (s₁.obj r).owned = true) :
    (s.obj r).owned = true ∨ (a = .openSelect r ∧ acts = k) ∨ r ∈ s.incoming.buf := by
  have htouched := h.touched r
  generalize s₁.obj r = y at htouched hr
  cases htouched with
  | accepted => exact Or.inr (Or.inl ⟨rfl, rfl⟩)
  | handed hbuf => exact Or.inr (Or.inr (by simp [hbuf]))
  | new _ => cases hr
  | _ => exact Or.inl hr

/-- Only `forceClose` closes a stream. -/
theorem Ran.closes (h : Ran json s t k a c s₁ acts) (hr : (s₁.obj r).closed = true) :
    (s.obj r).closed = true ∨
      ∃ err, a = .forceClose r err ∧ acts = .removeStream r :: .closeDone r :: k := by
  have htouched := h.touched r
  generalize s₁.obj r = y at htouched hr
  cases htouched with
  | forceClosed _ => exact Or.inr ⟨_, rfl, rfl⟩
  | new _ => cases hr
  | _ => exact Or.inl hr

theorem Ran.held (hthread : s.threads t = a :: k) (h : Ran json s t k a c s₁ acts)
    (hr : (s₁.goto t acts).Held r) :
    s.Held r ∨ (a = .openSelect r ∧ acts = k ∧ (s₁.obj r).owned = true) ∨
      s.count = r ∧ s₁.streams (s₁.obj r).id = some r := by
  have hmem := mem_of_head hthread
  rcases hr with hr | hr | ⟨u, b, hb, hr⟩
  · rcases h.owned hr with hr | ⟨ha, hacts⟩ | hr
    · exact Or.inl (Or.inl hr)
    · exact Or.inr (Or.inl ⟨ha, hacts, ‹_›⟩)
    · exact Or.inl (Or.inr (Or.inl hr))
  · rcases h.incoming hr with hr | hr
    · exact Or.inl (Or.inr (Or.inl hr))
    · exact Or.inl (Or.inr (Or.inr ⟨t, a, hmem, hr⟩))
  · rcases h.mem_threads hthread hb with hb | ⟨-, hb⟩ | ⟨q, -, rfl, rfl⟩
    · exact Or.inl (Or.inr (Or.inr ⟨u, b, hb, hr⟩))
    · rcases hb.hands r hr with hr | ⟨hcount, -, hreg⟩
      · exact Or.inl (Or.inr (Or.inr ⟨t, a, hmem, hr⟩))
      · exact Or.inr (Or.inr ⟨hcount, hreg⟩)
    · exact Or.inl (Or.inr (Or.inr ⟨t, _, hmem, hr⟩))

/-- A stream comes into use with its entry in the map. -/
theorem Ran.active (hthread : s.threads t = a :: k) (h : Ran json s t k a c s₁ acts)
    (hr : (s₁.goto t acts).Active r) :
    s.Active r ∨ ((∃ request, a = .openInsert r request) ∧ s₁.streams (s.obj r).id = some r) ∨
      s.count = r ∧ s₁.streams (s₁.obj r).id = some r := by
  have hamem := mem_of_head hthread
  rcases hr with hheld | ⟨u, b, hb, hopens, hne⟩
  · rcases h.held hthread hheld with hheld | ⟨rfl, -⟩ | hnew
    · exact Or.inl (Or.inl hheld)
    · exact Or.inl (Or.inr ⟨t, _, hamem, by simp [Act.opens], by simp⟩)
    · exact Or.inr (Or.inr hnew)
  · rcases h.mem_threads hthread hb with hmem | ⟨-, hpushed⟩ | ⟨q, -, rfl, -⟩
    · exact Or.inl (Or.inr ⟨u, b, hmem, hopens, hne⟩)
    · obtain ⟨hopens, ⟨-, hinsert⟩ | hstream⟩ := hpushed.opens r hopens
      · exact Or.inl (Or.inr ⟨t, a, hamem, hopens, hinsert⟩)
      · by_cases hinsert : ∃ request, a = .openInsert r request
        · exact Or.inr (Or.inl ⟨hinsert, hstream⟩)
        · exact Or.inl (Or.inr ⟨t, a, hamem, hopens, fun _ heq => hinsert ⟨_, heq⟩⟩)
    · cases hopens

/-- An entry of the map stays, is removed by `removeStream`, or is replaced by an insertion. -/
theorem Ran.streams_keep (h : Ran json s t k a c s₁ acts) {i : UInt64}
    (hr : s.streams i = some r) :
    s₁.streams i = some r ∨ a = .removeStream r ∨ ∃ q, s₁.streams i = some q ∧ (s₁.obj q).id = i ∧
      ((∃ request, a = .openInsert q request) ∨ s.count = q ∧ s₁.count = s.count + 1) := by
  cases h with
  | handle h =>
    cases h with
    | @openNew request _ _ _ =>
      by_cases hi : i = request.requestID
      · refine Or.inr (Or.inr ⟨s.count, ?_⟩)
        simp [note, register, alloc, hi, newStream]
      · refine Or.inl ?_
        simp [note, register, alloc, hi, newStream, hr]
    | _ => exact Or.inl hr
  | @openInsert q request _ _ =>
    by_cases hi : i = (s.obj q).id
    · refine Or.inr (Or.inr ⟨q, ?_⟩)
      simp [register, hi]
    · exact Or.inl (by simp [register, hi, hr])
  | @removeStream q =>
    simp only [forget]
    split
    · next hq =>
      by_cases hi : i = (s.obj q).id
      · subst hi
        rw [hq] at hr
        cases hr
        exact Or.inr (Or.inl rfl)
      · exact Or.inl (by simp [hi, hr])
    · exact Or.inl hr
  | _ => exact Or.inl hr

/-- Streams are allocated for incoming `FrameOpen`s. -/
theorem Ran.count_eq (h : Ran json s t k a c s₁ acts) :
    s₁.count = s.count ∨ c = .go ∧ ∃ frame request, a = .handle frame ∧ frame.type = frameOpen ∧
      decodeOpen json frame = .ok request ∧ s₁.count = s.count + 1 ∧
      (s₁.obj s.count).id = request.requestID := by
  cases h with
  | handle h =>
    cases h with
    | openClosed htype hdecode _ | openNew htype hdecode _ =>
      refine Or.inr ⟨rfl, _, _, rfl, htype, hdecode, rfl, ?_⟩
      simp [note, register, alloc, newStream]
    | _ => exact Or.inl rfl
  | _ => exact Or.inl rfl

/-! ## Opening -/

/-- The sections of an `Open` stay on the goroutine that runs it. -/
theorem Ran.opens_mem (hthread : s.threads t = a :: k) (h : Ran json s t k a c s₁ acts)
    (hb : b ∈ (s₁.goto t acts).threads u) (hr : b.opens r = true) :
    ∃ b' ∈ s.threads u, b'.opens r = true := by
  rcases h.mem_threads hthread hb with hb | ⟨rfl, hb⟩ | ⟨q, -, rfl, -⟩
  · exact ⟨b, hb, hr⟩
  · exact ⟨a, by rw [hthread]; exact List.mem_cons_self .., (hb.opens r hr).1⟩
  · cases hr

/-- The first section of an `Open` waits while others run. -/
theorem Ran.openInsert_mem (hw : s.Wf) (hthread : s.threads t = a :: k)
    (h : Ran json s t k a c s₁ acts) {request : OpenRequest}
    (hb : .openInsert r request ∈ (s₁.goto t acts).threads u) :
    u ≠ t ∧ .openInsert r request ∈ s.threads u := by
  have hmem : .openInsert r request ∈ s.threads u := by
    rcases h.mem_threads hthread hb with hb | ⟨-, hb⟩ | ⟨q, -, hq, -⟩
    · exact hb
    · exact absurd rfl (hb.inserts r request)
    · cases hq
  refine ⟨?_, hmem⟩
  rintro rfl
  rw [goto_threads_self] at hb
  obtain ⟨new, rest, rfl, hrest, -, hnew⟩ := h.pushed
  rcases List.mem_append.1 hb with hb | hb
  · exact absurd rfl ((hnew _ hb).inserts r request)
  · rcases hrest with rfl | ⟨rfl, -⟩
    · have := hw.follows u _ (by rw [hthread]; exact hb)
      cases this
    · cases hb

/-- An `Open` goes on or gives its stream up, not both. -/
theorem Ran.opens_or_removes (h : Ran json s t k a c s₁ acts) (ha : a.opens r = true) :
    (∀ b ∈ acts, b ∈ k ∨ b.opens r = false) ∨ ∀ b ∈ acts, b ∈ k ∨ ∀ q, b ≠ .removeStream q := by
  cases h with
  | moves h =>
    cases h with
    | openDone _ | openContext =>
      refine Or.inl fun b hb => ?_
      simp only [List.mem_append, List.mem_cons, List.not_mem_nil, or_false] at hb
      rcases hb with hb | hb
      · exact Or.inr (by rcases hb with rfl | rfl <;> rfl)
      · exact Or.inl hb
    | openRefused _ | openSession _ => exact Or.inl fun b hb => Or.inl hb
    | @writeFrame frame purpose _ =>
      refine Or.inr fun b hb => ?_
      simp only [List.mem_append, List.mem_cons, List.not_mem_nil, or_false] at hb
      rcases hb with rfl | hb
      · exact Or.inr (by simp)
      · exact Or.inl hb
    | @writeFrameRefused frame purpose _ | @oversized frame purpose _
    | @failed frame purpose _ _ _ =>
      refine Or.inl fun b hb => ?_
      rcases List.mem_append.1 hb with hb | hb
      · have hf := onErr_follows _ _ b hb
        refine Or.inr (Bool.eq_false_of_not_eq_true fun ho => ?_)
        rw [Act.follows_of_opens ho] at hf
        cases hf
      · exact Or.inl hb
    | _ => cases ha
  | openInsert _ _ =>
    refine Or.inr fun b hb => ?_
    rcases List.mem_cons.1 hb with rfl | hb
    · exact Or.inr (by simp)
    · exact Or.inl hb
  | openAccepted _ _ => exact Or.inl fun b hb => Or.inl hb
  | openRejected _ _ =>
    refine Or.inl fun b hb => ?_
    simp only [List.mem_cons] at hb
    rcases hb with rfl | rfl | hb
    · exact Or.inr rfl
    · exact Or.inr rfl
    · exact Or.inl hb
  | @wrote frame purpose _ =>
    refine Or.inr fun b hb => ?_
    rcases List.mem_append.1 hb with hb | hb
    · refine Or.inr ?_
      rintro q rfl
      cases purpose with
      | opening p => simp [Purpose.onOk] at hb
      | _ => cases ha
    · exact Or.inl hb
  | _ => cases ha

/-- The ids stay different when the one stream that is added has a new one. -/
theorem Listed.ids_of_new (ho : s.Listed) (hold : ∀ p < s.count, (s₁.obj p).id = (s.obj p).id)
    (hnew : ∀ p < s.count, (s.obj p).id ≠ (s₁.obj s.count).id) {q : Ref} (hq : q < s.count + 1)
    (hr : r < s.count + 1) (hid : (s₁.obj q).id = (s₁.obj r).id) : q = r := by
  rcases Nat.lt_succ_iff_lt_or_eq.1 hq with hq | rfl
  · rcases Nat.lt_succ_iff_lt_or_eq.1 hr with hr | rfl
    · rw [hold q hq, hold r hr] at hid
      exact ho.ids q hq r hr hid
    · exact absurd ((hold q hq).symm.trans hid) (hnew q hq)
  · rcases Nat.lt_succ_iff_lt_or_eq.1 hr with hr | rfl
    · exact absurd ((hold r hr).symm.trans hid.symm) (hnew r hr)
    · rfl

/-! ## Preservation -/

section Preservation

variable (ho : s.Listed) (hw : s.Wf) (hthread : s.threads t = a :: k)
  (h : Ran json s t k a c s₁ acts)

include ho hw hthread h

theorem Listed.run_ids (hfresh : s.newID json (.run t c) = true) {q : Ref} (hq : q < s₁.count)
    (hr : r < s₁.count) (hid : (s₁.obj q).id = (s₁.obj r).id) : q = r := by
  have hold : ∀ p < s.count, (s₁.obj p).id = (s.obj p).id := fun p hp => h.id_eq hw hthread hp
  rcases h.count_eq with hcount | ⟨rfl, frame, request, rfl, htype, hdecode, hcount, hnew⟩
  · rw [hcount] at hq hr
    rw [hold q hq, hold r hr] at hid
    exact ho.ids q hq r hr hid
  · simp only [newID, hthread, hdecode, htype, ne_eq, not_true, decide_false, Bool.false_or,
      unused_iff] at hfresh
    rw [hcount] at hq hr
    exact ho.ids_of_new hold (hnew ▸ hfresh) hq hr hid

theorem Listed.run_opening (hb : b ∈ (s₁.goto t acts).threads u)
    (hr : b.opens r = true) : ¬ (s₁.goto t acts).Held r := by
  obtain ⟨b', hb', hr'⟩ := h.opens_mem hthread hb hr
  intro hheld
  rcases h.held hthread hheld with hheld | ⟨rfl, rfl, -⟩ | ⟨rfl, -⟩
  · exact ho.opening r u b' hb' hr' hheld
  · -- the goroutine that opened the stream has just returned it
    have hut : u = t := ho.unique r u t b' hb' _ (mem_of_head hthread) hr'
      (by simp [Act.opens])
    subst hut
    rw [goto_threads_self] at hb
    have hf := hw.follows u b (by rw [hthread]; exact hb)
    rw [Act.follows_of_opens hr] at hf
    cases hf
  · exact Nat.lt_irrefl _ (hw.refs u b' hb' _ (Act.refs_of_opens hr'))

theorem Listed.run_inserting {request : OpenRequest}
    (hb : .openInsert r request ∈ (s₁.goto t acts).threads u) :
    request.requestID = (s₁.obj r).id ∧ (∀ i, s₁.streams i ≠ some r) ∧
      (∀ e ∈ s₁.output, e.2 ≠ .opening r) ∧ (s₁.obj r).closed = false ∧
      ∀ v, ∀ b ∈ (s₁.goto t acts).threads v, r ∈ b.refs → b = .openInsert r request := by
  obtain ⟨hut, hmem⟩ := h.openInsert_mem hw hthread hb
  obtain ⟨hid, hstreams, houtput, hopen, hknown⟩ := ho.inserting u r request hmem
  have hlt : r < s.count := hw.refs u _ hmem r (by simp [Act.refs])
  have hamem := mem_of_head hthread
  have hnot : r ∉ a.refs := by
    intro hr
    have ha := hknown t a hamem hr
    exact hut (ho.unique r u t _ hmem a hamem (by simp [Act.opens]) (by simp [ha, Act.opens]))
  refine ⟨by rw [h.id_eq hw hthread hlt, hid], ?_, ?_, ?_, ?_⟩
  · intro i hi
    rcases h.streams hi with hi | ⟨-, ⟨request', rfl⟩ | ⟨hr, -⟩⟩
    · exact hstreams i hi
    · exact hnot (by simp [Act.refs])
    · exact Nat.lt_irrefl _ (hr ▸ hlt)
  · intro e he hp
    rcases h.mem_output he with he | rfl
    · exact houtput e he hp
    · exact hnot (by simp [Act.refs, hp, Purpose.refs])
  · refine Bool.eq_false_of_not_eq_true fun hclosed => ?_
    rcases h.closes hclosed with hclosed | ⟨err, rfl, -⟩
    · rw [hopen] at hclosed
      cases hclosed
    · exact hnot (by simp [Act.refs])
  · intro v b hb hr
    rcases h.mem_threads hthread hb with hb | ⟨-, hb⟩ | ⟨q, -, rfl, rfl⟩
    · exact hknown v b hb hr
    · rcases hb.refs r hr with hr | ⟨i, hr⟩ | ⟨hr, -⟩
      · exact absurd hr hnot
      · exact absurd hr (hstreams i)
      · exact absurd hlt (by rw [hr]; exact Nat.lt_irrefl _)
    · exact absurd hr hnot

theorem Listed.run_removing (hb : .removeStream r ∈ (s₁.goto t acts).threads u) :
    (s₁.obj r).closed = true ∨ ¬ (s₁.goto t acts).Held r ∧
      ∀ v, ∀ b ∈ (s₁.goto t acts).threads v, b.opens r = false := by
  have hamem := mem_of_head hthread
  have hkeeps := h.keeps hw hthread r
  rcases h.mem_threads hthread hb with hb | ⟨rfl, hpushed⟩ | ⟨q, -, hq, -⟩
  · have hlt : r < s.count := hw.refs u _ hb r (by simp [Act.refs])
    rcases ho.removing u r hb with hclosed | ⟨hheld, hopens⟩
    · exact Or.inl (hkeeps.closed hclosed)
    · refine Or.inr ⟨fun hr => ?_, fun v b hb => Bool.eq_false_of_not_eq_true fun hr => ?_⟩
      · rcases h.held hthread hr with hr | ⟨rfl, -⟩ | ⟨hr, -⟩
        · exact hheld hr
        · have := hopens t _ hamem
          simp [Act.opens] at this
        · exact Nat.lt_irrefl _ (hr ▸ hlt)
      · obtain ⟨b', hb', hr'⟩ := h.opens_mem hthread hb hr
        rw [hopens v b' hb'] at hr'
        cases hr'
  · rcases hpushed.removes r rfl with hclosed | ⟨hopens, howned⟩
    · exact Or.inl hclosed
    · have hheld := ho.opening r u a hamem hopens
      have hlt : r < s.count := hw.refs u a hamem r (Act.refs_of_opens hopens)
      rw [goto_threads_self] at hb
      rcases h.opens_or_removes hopens with hno | hno
      · -- the `Open` has failed, and nobody else was opening the stream
        refine Or.inr ⟨fun hr => ?_, fun v b hb' => Bool.eq_false_of_not_eq_true fun hr => ?_⟩
        · rcases h.held hthread hr with hr | ⟨-, -, hr⟩ | ⟨hr, -⟩
          · exact hheld hr
          · exact hheld (Or.inl (howned ▸ hr))
          · exact Nat.lt_irrefl _ (hr ▸ hlt)
        · obtain ⟨b', hb'', hr'⟩ := h.opens_mem hthread hb' hr
          have hvu : v = u := ho.unique r v u b' hb'' a hamem hr' hopens
          subst hvu
          rw [goto_threads_self] at hb'
          rcases hno b hb' with hk | hk
          · have := hw.follows v b (by rw [hthread]; exact hk)
            rw [Act.follows_of_opens hr] at this
            cases this
          · rw [hk] at hr
            cases hr
      · rcases hno _ hb with hk | hk
        · rcases ho.removing u r (mem_of_tail hthread hk) with hclosed | hno'
          · exact Or.inl (hkeeps.closed hclosed)
          · rw [hno'.2 u a hamem] at hopens
            cases hopens
        · exact absurd rfl (hk r)
  · cases hq

theorem Listed.run_registered (hfresh : s.newID json (.run t c) = true) (hr : r < s₁.count)
    (hclosed : (s₁.obj r).closed = false)
    (hactive : (s₁.goto t acts).Active r) : s₁.streams (s₁.obj r).id = some r := by
  have hamem := mem_of_head hthread
  rcases h.active hthread hactive with hbefore | ⟨⟨request, rfl⟩, hreg⟩ | ⟨-, hreg⟩
  · have hlt := hbefore.lt hw
    have hopen : (s.obj r).closed = false := false_of_imp (h.keeps hw hthread r).closed hclosed
    rw [h.id_eq hw hthread hlt]
    rcases h.streams_keep (ho.registered r hlt hopen hbefore) with hkeep | rfl | ⟨q, hq, hid, hnew⟩
    · exact hkeep
    · rcases ho.removing t r hamem with hc | ⟨hnot, hno⟩
      · rw [hopen] at hc
        cases hc
      · rcases hbefore with hbefore | ⟨u, b, hb, hopens, -⟩
        · exact absurd hbefore hnot
        · rw [hno u b hb] at hopens
          cases hopens
    · have hqlt : q < s₁.count := by
        rcases hnew with ⟨request, rfl⟩ | ⟨hq', hc⟩
        · exact Nat.lt_of_lt_of_le (hw.refs t _ hamem q (by simp [Act.refs])) h.count_le
        · lia
      have := Listed.run_ids ho hw hthread h hfresh hqlt hr (by rw [hid, h.id_eq hw hthread hlt])
      rw [hq, this]
  · -- the step enters the stream into the map
    rwa [h.id_eq hw hthread (hw.refs t _ hamem r (by simp [Act.refs]))]
  · -- the stream is new: the frame that announced it has put it into the map
    exact hreg

/-- **A section keeps the map**, when a new stream gets a new id. -/
theorem Listed.run (hfresh : s.newID json (.run t c) = true) : (s₁.goto t acts).Listed where
  ids q hq r hr hid := Listed.run_ids ho hw hthread h hfresh hq hr hid
  unique r u v b hb b' hb' hr hr' := by
    obtain ⟨d, hd, hopens⟩ := h.opens_mem hthread hb hr
    obtain ⟨d', hd', hopens'⟩ := h.opens_mem hthread hb' hr'
    exact ho.unique r u v d hd d' hd' hopens hopens'
  opening r u b hb hr := Listed.run_opening ho hw hthread h hb hr
  inserting u r request hb := Listed.run_inserting ho hw hthread h hb
  removing u r hb := Listed.run_removing ho hw hthread h hb
  registered r hr hclosed hactive :=
    (Listed.run_registered ho hw hthread h hfresh hr hclosed hactive :)

end Preservation

/-! ## Calls -/

theorem Called.hands_mem (h : Called json s op s₁ acts)
    (hb : b ∈ (s₁.goto t acts).threads u) (hr : b.hands r = true) : b ∈ s.threads u := by
  have hnone : ∀ b ∈ acts, b.hands r = false := by cases h <;> simp [Act.hands]
  rcases h.mem_threads hb with hmem | ⟨-, hacts⟩ | ⟨-, rfl⟩ | ⟨-, rfl⟩
  · exact hmem
  · rw [hnone b hacts] at hr
    cases hr
  · cases hr
  · cases hr

theorem Called.held (h : Called json s op s₁ acts) (hr : (s₁.goto t acts).Held r) :
    s.Held r := by
  rcases hr with hr | hr | ⟨u, b, hb, hr⟩
  · refine Or.inl ?_
    cases h with
    | «open» =>
      simp only [goto_obj, alloc, Function.update_apply] at hr
      split at hr
      · cases hr
      · exact hr
    | write _ =>
      simp only [goto_obj, modify, Function.update_apply] at hr
      split at hr
      · next heq => rw [heq]; exact hr
      · exact hr
    | _ => exact hr
  · refine Or.inr (Or.inl ?_)
    cases h <;> exact hr
  · exact Or.inr (Or.inr ⟨u, b, h.hands_mem hb hr, hr⟩)

theorem Called.opens_mem (h : Called json s op s₁ acts)
    (hb : b ∈ (s₁.goto t acts).threads u) (hr : b.opens r = true) : b ∈ s.threads u ∨
      u = t ∧ s.count = r ∧ ∃ request, b = .openInsert r request := by
  have hnew : ∀ b ∈ acts, b.opens r = true → s.count = r ∧ ∃ request, b = .openInsert r request := by
    cases h <;> simp +contextual [Act.opens]
  rcases h.mem_threads hb with hb | ⟨rfl, hacts⟩ | ⟨-, rfl⟩ | ⟨-, rfl⟩
  · exact Or.inl hb
  · exact Or.inr ⟨rfl, hnew b hacts hr⟩
  · cases hr
  · cases hr

theorem Called.active (h : Called json s op s₁ acts) (hr : (s₁.goto t acts).Active r) :
    s.Active r := by
  refine hr.imp h.held ?_
  rintro ⟨u, b, hb, hopens, hne⟩
  rcases h.opens_mem hb hopens with hmem | ⟨-, -, request, rfl⟩
  · exact ⟨u, b, hmem, hopens, hne⟩
  · exact absurd rfl (hne request)

theorem Called.count_eq (h : Called json s op s₁ acts) :
    s₁.count = s.count ∨ ∃ request, op = .open request ∧ s₁.count = s.count + 1 ∧
      (s₁.obj s.count).id = (s.openRequest request).requestID ∧
      acts = [.openInsert s.count (s.openRequest request)] := by
  cases h with
  | «open» => exact Or.inr ⟨_, rfl, rfl, by simp [alloc, newStream], rfl⟩
  | _ => exact Or.inl rfl

theorem Called.onOwner (h : Called json s op s₁ acts) (hd : s.disciplined (.call t op) = true) :
    ∀ b ∈ acts, b.onOwner t = true := by
  cases h <;> simp_all [disciplined, Act.onOwner]

theorem Called.not_removes (h : Called json s op s₁ acts) : ∀ b ∈ acts, b ≠ .removeStream r := by
  cases h <;> simp

theorem Called.closed_eq (h : Called json s op s₁ acts) (hr : r < s.count) :
    (s₁.obj r).closed = (s.obj r).closed := by
  obtain ⟨p, hobj, -⟩ := h.obj_eq hr
  rw [hobj]

theorem Called.streams_eq (h : Called json s op s₁ acts) :
    s₁.streams = s.streams ∧ s₁.output = s.output ∧ s₁.input = s.input := by
  cases h <;> exact ⟨rfl, rfl, rfl⟩

/-- `Open` has only its new stream to put into the map. -/
theorem Called.insert_new {request : OpenRequest} (h : Called json s op s₁ acts) (hw : s.Wf)
    (hcalls : t.calls = true) (hb : .openInsert s.count request ∈ acts) :
    request.requestID = (s₁.obj s.count).id ∧ acts = [.openInsert s.count request] := by
  rcases h.count_eq with hcount | ⟨request', -, -, hnew, hacts⟩
  · rcases ((h.pushed hcalls).2 _ hb).2.1 s.count (by simp [Act.refs]) with howned | ⟨-, hc⟩
    · exact absurd (hw.owned_lt howned) (Nat.lt_irrefl _)
    · exact absurd hc (by lia)
  · rw [hacts, List.mem_singleton] at hb
    cases hb
    exact ⟨hnew.symm, hacts⟩

/-- **A call keeps the map**, when a new stream gets a new id. -/
theorem Listed.call (ho : s.Listed) (hw : s.Wf) (hcalls : t.calls = true)
    (h : Called json s op s₁ acts) (hfresh : s.newID json (.call t op) = true) :
    (s₁.goto t acts).Listed := by
  have hold : ∀ p < s.count, (s₁.obj p).id = (s.obj p).id := fun p hp => (h.changed p).id_eq hp
  have hlt : ∀ {q u b}, b ∈ s.threads u → b.opens q = true → q < s.count :=
    fun hb hq => hw.refs _ _ hb _ (Act.refs_of_opens hq)
  refine ⟨?_, ?_, ?_, ?_, ?_, ?_⟩
  · -- ids
    intro q hq r hr hid
    rw [goto_count] at hq hr
    rw [goto_obj] at hid
    rcases h.count_eq with hcount | ⟨request, rfl, hcount, hnew, -⟩
    · rw [hcount] at hq hr
      rw [hold q hq, hold r hr] at hid
      exact ho.ids q hq r hr hid
    · rw [hcount] at hq hr
      exact ho.ids_of_new hold (hnew ▸ unused_iff.1 hfresh) hq hr hid
  · -- unique
    intro r u v b hb b' hb' hr hr'
    rcases h.opens_mem hb hr with hmem | ⟨rfl, hcount, -⟩
    · rcases h.opens_mem hb' hr' with hmem' | ⟨rfl, hcount, -⟩
      · exact ho.unique r u v b hmem b' hmem' hr hr'
      · exact absurd (hlt hmem hr) (by lia)
    · rcases h.opens_mem hb' hr' with hmem' | ⟨rfl, -, -⟩
      · exact absurd (hlt hmem' hr') (by lia)
      · rfl
  · -- opening
    intro r u b hb hr hheld
    replace hheld := h.held hheld
    rcases h.opens_mem hb hr with hmem | ⟨rfl, hcount, -⟩
    · exact ho.opening r u b hmem hr hheld
    · subst hcount
      exact Nat.lt_irrefl _ (hheld.lt hw)
  · -- inserting
    intro u r request hb
    rw [goto_obj, goto_streams, goto_output, h.streams_eq.1, h.streams_eq.2.1]
    have hopens : Act.opens r (.openInsert r request) = true := by simp [Act.opens]
    rcases h.opens_mem hb hopens with hmem | ⟨rfl, hcount, -⟩
    · obtain ⟨hid, hstreams, houtput, hopen, hknown⟩ := ho.inserting u r request hmem
      have hr : r < s.count := hlt hmem hopens
      refine ⟨by rw [hold r hr]; exact hid, hstreams, houtput, by rw [h.closed_eq hr]; exact hopen,
        fun v b hb hrefs => ?_⟩
      rcases h.mem_threads hb with hb | ⟨rfl, hacts⟩ | ⟨-, rfl⟩ | ⟨-, rfl⟩
      · exact hknown v b hb hrefs
      · rcases ((h.pushed hcalls).2 b hacts).2.1 r hrefs with howned | ⟨hcount, -⟩
        · exact absurd (Or.inl howned) (ho.opening r u _ hmem hopens)
        · exact absurd hr (by lia)
      · cases hrefs
      · cases hrefs
    · subst hcount
      have hnot : ∀ v, ∀ b ∈ s.threads v, s.count ∉ b.refs := fun v b hb hrefs =>
        Nat.lt_irrefl _ (hw.refs v b hb _ hrefs)
      rw [goto_threads_self] at hb
      obtain ⟨hid, hone⟩ := h.insert_new hw hcalls hb
      refine ⟨hid, ?_, ?_, ?_, ?_⟩
      · exact fun i hi => Nat.lt_irrefl _ (hw.streams i _ hi).1
      · exact fun e he hp => Nat.lt_irrefl _ (hw.output e he _ (by simp [hp, Purpose.refs]))
      · obtain ⟨n, id, request', born, heq⟩ := h.new_obj hw (Nat.le_refl _)
        rw [heq]
        rfl
      · intro v b hb' hrefs
        rcases h.mem_threads hb' with hmem | ⟨-, hacts⟩ | ⟨-, rfl⟩ | ⟨-, rfl⟩
        · exact absurd hrefs (hnot v b hmem)
        · rw [hone, List.mem_singleton] at hacts
          exact hacts
        · cases hrefs
        · cases hrefs
  · -- removing
    intro u r hb
    have hmem : .removeStream r ∈ s.threads u := by
      rcases h.mem_threads hb with hb | ⟨-, hacts⟩ | ⟨-, hb⟩ | ⟨-, hb⟩
      · exact hb
      · exact absurd rfl (h.not_removes _ hacts)
      · cases hb
      · cases hb
    have hr : r < s.count := hw.refs u _ hmem r (by simp [Act.refs])
    rw [goto_obj, h.closed_eq hr]
    refine (ho.removing u r hmem).imp_right fun hremoving => ⟨fun hh => hremoving.1 (h.held hh), ?_⟩
    refine fun v b hb => Bool.eq_false_of_not_eq_true fun hopen => ?_
    rcases h.opens_mem hb hopen with hmem' | ⟨-, hcount, -⟩
    · rw [hremoving.2 v b hmem'] at hopen
      cases hopen
    · exact absurd hr (by lia)
  · -- registered
    intro r hr hclosed hactive
    have hbefore := h.active hactive
    have hr' := hbefore.lt hw
    rw [goto_obj, h.closed_eq hr'] at hclosed
    rw [goto_streams, goto_obj, h.streams_eq.1, hold r hr']
    exact ho.registered r hr' hclosed hbefore

/-- **Every step that gives new streams new ids keeps the map.** -/
theorem Listed.steps (ho : s.Listed) (hw : s.Wf) (h : Steps json s l s')
    (hfresh : s.newID json l = true) : s'.Listed := by
  cases h with
  | call hcalls hidle h => exact ho.call hw hcalls h hfresh
  | run hthread h => exact ho.run hw hthread h hfresh

/-- **A disciplined one keeps the streams with their owners**, too. -/
theorem Owned.steps (ho : s.Owned) (hw : s.Wf) (h : Steps json s l s')
    (hd : s.disciplined l = true) (hfresh : s.FreshID json l) : s'.Owned := by
  refine ⟨ho.toListed.steps hw h hfresh.newID, ?_⟩
  cases h with
  | call hcalls hidle h =>
    intro u b hb
    rcases h.mem_threads hb with hb | ⟨rfl, hacts⟩ | ⟨-, rfl⟩ | ⟨-, rfl⟩
    · exact ho.onOwner u b hb
    · exact h.onOwner hd b hacts
    · rfl
    · rfl
  | @run t a k c s₁ acts hthread h =>
    intro u b hb
    rcases h.mem_threads hthread hb with hb | ⟨rfl, hpushed⟩ | ⟨q, -, rfl, -⟩
    · exact ho.onOwner u b hb
    · exact hpushed.onOwner (ho.onOwner u a (mem_of_head hthread))
    · rfl

end Session

end LnProxy
