import LnProxy.Session.Sender

set_option autoImplicit false

/-! # The frames a session writes

Every frame on its way to the connection says what its purpose requires (`Agrees`): the id is that of
the stream, and each type of stream frame has one source. A stream's `FrameOpen` is written once and
before its data, and the read loop answers data with a `FrameClose` only for an id that no stream in
use has (`Written`). With `Sends` this gives the meaning of a `FrameClose` for an open stream: all
that was written to the stream has been sent before it. -/

namespace LnProxy

open Protocol

/-- The types a frame may have, by its purpose. -/
def Purpose.allows (type : FrameType) : Purpose → Bool
  | .opening _ => type = frameOpen
  | .accepting _ | .rejecting _ => type = frameOpenAck
  | .chunk .. => type = frameData
  | .closing _ => type = frameClose
  | .reply _ => type = frameError || type = frameClose
  | .control => ¬ (frameOpen ≤ type ∧ type ≤ frameError)

namespace Session

variable {json : Codec} {s s' s₁ : Session} {t : Tid} {a : Act} {c : Choice} {k acts : List Act}
  {l : Label} {op : Op} {r : Ref} {f : Frame} {purpose : Purpose}

/-- What a frame written for a purpose looks like. -/
def Agrees (json : Codec) (s : Session) (f : Frame) : Purpose → Prop
  | .opening r => ∃ request, f = openFrame json request ∧ request.requestID = (s.obj r).id
  | .accepting r | .rejecting r => f.type = frameOpenAck ∧ f.id = (s.obj r).id
  | .chunk r _ _ => f.type = frameData ∧ f.id = (s.obj r).id
  | .closing r => f = closeFrame (s.obj r).id
  | .reply n => ∃ g, s.input[n]? = some (g, none) ∧ f.id = g.id ∧
      (f.type = frameError ∧ g.type = frameOpen ∨ f.type = frameClose ∧ g.type = frameData)
  | .control => ¬ (frameOpen ≤ f.type ∧ f.type ≤ frameError)

structure Written (json : Codec) (s : Session) : Prop where
  composed : ∀ t, ∀ a ∈ s.threads t, ∀ f purpose, a.writesFrame f purpose → s.Agrees json f purpose
  output : ∀ e ∈ s.output, s.Agrees json e.1 e.2 ∧ e.1.fits
  /-- Nothing of a stream is written before its `FrameOpen`. -/
  opening : ∀ t, ∀ a ∈ s.threads t, ∀ f r, a.writesFrame f (.opening r) → ∀ e ∈ s.output,
    e.2 ≠ .opening r ∧ ∀ rest inCopy, e.2 ≠ .chunk r rest inCopy
  opened : ∀ pre f post r, s.output = pre ++ (f, .opening r) :: post → ∀ e ∈ pre,
    e.2 ≠ .opening r ∧ ∀ rest inCopy, e.2 ≠ .chunk r rest inCopy
  /-- Data that found no stream has the id of no stream in use. -/
  unknown : ∀ r < s.count, ∀ g, (g, none) ∈ s.input → g.type = frameData →
    g.id = (s.obj r).id → (s.obj r).closed = true ∨ ¬ s.Active r

theorem new_written (json : Codec) (bufferSize : Nat) :
    (Session.new bufferSize).Written json where
  composed := by simp [Session.new]
  output := by simp [Session.new]
  opening := by simp [Session.new]
  opened := by simp [Session.new]
  unknown := by simp [Session.new]

theorem Agrees.mono (h : s.Agrees json f purpose) (hinput : s.input <+: s'.input)
    (hids : ∀ r ∈ purpose.refs, (s'.obj r).id = (s.obj r).id) : s'.Agrees json f purpose := by
  cases purpose with
  | reply n =>
    obtain ⟨g, hg, hrest⟩ := h
    refine ⟨g, ?_, hrest⟩
    obtain ⟨tail, htail⟩ := hinput
    rw [← htail, List.getElem?_append_left (List.getElem?_eq_some_iff.1 hg).1, hg]
  | control => exact h
  | opening r | accepting r | rejecting r | chunk r _ _ | closing r =>
    have hid := hids r (by simp [Purpose.refs])
    simp only [Agrees, hid] at h ⊢
    exact h

/-! ## Preservation -/

theorem Ran.input_prefix (h : Ran json s t k a c s₁ acts) : s.input <+: s₁.input := by
  rcases h.input with heq | ⟨frame, tag, -, heq⟩
  · exact heq ▸ List.prefix_rfl
  · rw [heq]
    exact List.prefix_append ..

section Preservation

variable (hwr : s.Written json) (hs : s.Sends) (ho : s.Owned) (hw : s.Wf)
  (hthread : s.threads t = a :: k) (h : Ran json s t k a c s₁ acts)

include hwr hs ho hw hthread h

omit hs in
theorem Written.run_composed {u : Tid} {b : Act} (hb : b ∈ (s₁.goto t acts).threads u)
    (hf : b.writesFrame f purpose) : (s₁.goto t acts).Agrees json f purpose := by
  have hamem := mem_of_head hthread
  rcases h.writes_mem hthread hb hf with ⟨b', hb', hf'⟩ | ⟨rfl, hcomposed⟩
  · refine (hwr.composed u b' hb' f purpose hf').mono h.input_prefix fun r hr => ?_
    refine h.id_eq hw hthread (hw.refs u b' hb' r ?_)
    rcases hf' with rfl | rfl <;> exact hr
  · cases hcomposed with
    | @opening r request =>
      refine ⟨request, rfl, ?_⟩
      rw [goto_obj, h.id_eq hw hthread (hw.refs u _ hamem r (by simp [Act.refs]))]
      exact (ho.inserting u r request hamem).1
    | accepting heq | chunk heq =>
      subst heq
      exact ⟨rfl, rfl⟩
    | @closing r _ _ =>
      have hid := h.id_eq hw hthread (hw.refs u _ hamem r (by simp [Act.refs]))
      simp only [Agrees, goto_obj, hid]
    | @invalid frame _ htype hinput =>
      exact ⟨frame, by simp [hinput], rfl, Or.inl ⟨rfl, htype⟩⟩
    | @unknown frame htype hinput =>
      exact ⟨frame, by simp [hinput], rfl, Or.inr ⟨rfl, htype⟩⟩

omit hs ho in
theorem Written.run_output {e : Frame × Purpose} (he : e ∈ s₁.output) :
    (s₁.goto t acts).Agrees json e.1 e.2 ∧ e.1.fits := by
  have hamem := mem_of_head hthread
  have hold : e ∈ s.output → (s₁.goto t acts).Agrees json e.1 e.2 ∧ e.1.fits := by
    intro he
    obtain ⟨hagrees, hfits⟩ := hwr.output e he
    refine ⟨hagrees.mono h.input_prefix fun r hr => ?_, hfits⟩
    exact h.id_eq hw hthread (hw.output e he r hr)
  rcases h.output with heq | ⟨f, purpose, rfl, hfits, -, -, heq⟩
  · exact hold (heq ▸ he)
  · rw [heq, List.mem_append, List.mem_singleton] at he
    rcases he with he | rfl
    · exact hold he
    · refine ⟨(hwr.composed t _ hamem f purpose (Or.inr rfl)).mono h.input_prefix ?_, hfits⟩
      exact fun r hr => h.id_eq hw hthread (hw.refs t _ hamem r hr)

theorem Written.run_opening {u : Tid} {b : Act} (hb : b ∈ (s₁.goto t acts).threads u)
    (hf : b.writesFrame f (.opening r)) {e : Frame × Purpose} (he : e ∈ s₁.output) :
    e.2 ≠ .opening r ∧ ∀ rest inCopy, e.2 ≠ .chunk r rest inCopy := by
  have hamem := mem_of_head hthread
  have hopens : ∀ {b' : Act}, b'.writesFrame f (.opening r) → b'.opens r = true := by
    rintro b' (rfl | rfl) <;> simp [Act.opens]
  -- who opens a stream does not hold it, so it has written nothing to it
  have hdata : ∀ {v b'}, b' ∈ s.threads v → b'.opens r = true → (s.obj r).owned = false := by
    intro v b' hb' hr
    exact Bool.eq_false_of_not_eq_true fun howned => ho.opening r v b' hb' hr (Or.inl howned)
  obtain ⟨d, hd, hdr⟩ := h.opens_mem hthread hb (hopens hf)
  have hold : e ∈ s.output → e.2 ≠ .opening r ∧ ∀ rest inCopy, e.2 ≠ .chunk r rest inCopy := by
    intro he
    rcases h.writes_mem hthread hb hf with ⟨b', hb', hf'⟩ | ⟨rfl, hcomposed⟩
    · exact hwr.opening u b' hb' f r hf' e he
    · generalize hp : Purpose.opening r = purpose' at hcomposed
      cases hcomposed with
      | opening =>
        cases hp
        refine ⟨(ho.inserting u r _ hamem).2.2.1 e he, ?_⟩
        rintro rest inCopy heq
        have := hs.chunks e.1 r rest inCopy (by rw [← heq]; exact he)
        rw [hdata hamem (by simp [Act.opens])] at this
        cases this
      | _ => cases hp
  rcases h.output with heq | ⟨g, purpose', rfl, -, hacts, -, heq⟩
  · exact hold (heq ▸ he)
  · rw [heq, List.mem_append, List.mem_singleton] at he
    rcases he with he | rfl
    · exact hold he
    · refine ⟨?_, ?_⟩
      · rintro rfl
        -- the `FrameOpen` is written now, by the goroutine that opens the stream
        have hut : u = t := ho.unique r u t d hd _ hamem hdr (by simp [Act.opens])
        subst hut
        rw [goto_threads_self, hacts] at hb
        simp only [Purpose.onOk, List.cons_append, List.nil_append, List.mem_cons] at hb
        rcases hb with rfl | hb
        · rcases hf with hf | hf <;> cases hf
        · have := hw.follows u b (by rw [hthread]; exact hb)
          rw [Act.follows_of_opens (hopens hf)] at this
          cases this
      · rintro rest inCopy rfl
        have := hs.owned t _ hamem r (by simp [Act.onWriter, Act.writes])
        rw [hdata hd hdr] at this
        cases this

omit hs ho hw in
theorem Written.run_opened {pre post : List (Frame × Purpose)}
    (hout : s₁.output = pre ++ (f, .opening r) :: post) {e : Frame × Purpose} (he : e ∈ pre) :
    e.2 ≠ .opening r ∧ ∀ rest inCopy, e.2 ≠ .chunk r rest inCopy := by
  rcases h.output with heq | ⟨g, purpose', rfl, -, -, -, heq⟩
  · exact hwr.opened pre f post r (heq ▸ hout) e he
  · rw [heq] at hout
    rcases split_concat hout with ⟨-, rfl, hlast⟩ | ⟨post', -, hold⟩
    · cases hlast
      exact hwr.opening t _ (mem_of_head hthread) f r (Or.inr rfl) e he
    · exact hwr.opened pre f post' r hold e he

omit hs ho in
theorem Written.run_unknown (ho' : (s₁.goto t acts).Owned) (hfresh : s.FreshID json (.run t c))
    (hr : r < s₁.count) {g : Frame} (hg : (g, none) ∈ s₁.input) (htype : g.type = frameData)
    (hid : g.id = (s₁.obj r).id) : (s₁.obj r).closed = true ∨ ¬ (s₁.goto t acts).Active r := by
  by_contra hcontra
  simp only [not_or, not_not, Bool.not_eq_true] at hcontra
  obtain ⟨hopen, hactive⟩ := hcontra
  have hreg := ho'.registered r hr hopen hactive
  rcases h.input with heq | ⟨frame, tag, rfl, heq⟩
  · rw [heq] at hg
    have hlt : r < s.count := by
      rcases h.count_eq with hcount | ⟨-, frame, request, rfl, -⟩
      · exact hcount ▸ hr
      · obtain ⟨tag, htag⟩ := h.input_handle
        rw [heq] at htag
        simp at htag
    rw [h.id_eq hw hthread hlt] at hid
    rcases h.active hthread hactive with hactive | ⟨⟨request, rfl⟩, -⟩ | ⟨hcount, -⟩
    · rcases hwr.unknown r hlt g hg htype hid with hclosed | hno
      · rw [(h.keeps hw hthread r).closed hclosed] at hopen
        cases hopen
      · exact hno hactive
    · -- `Open` enters the stream into the map
      have hgo : c = .go := by
        cases h with
        | moves h => cases h; rfl
        | openInsert _ _ => rfl
      subst hgo
      simp only [FreshID, hthread] at hfresh
      exact hfresh _ hg htype hid
    · exact absurd hlt (by lia)
  · rw [heq, List.mem_append, List.mem_singleton] at hg
    rcases hg with hg | hg
    · by_cases hlt : r < s.count
      · rw [h.id_eq hw hthread hlt] at hid
        rcases h.active hthread hactive with hactive | ⟨⟨request, hne⟩, -⟩ | ⟨hcount, -⟩
        · rcases hwr.unknown r hlt g hg htype hid with hclosed | hno
          · rw [(h.keeps hw hthread r).closed hclosed] at hopen
            cases hopen
          · exact hno hactive
        · cases hne
        · exact absurd hlt (by lia)
      · rcases h.count_eq with hcount | ⟨rfl, frame', request, hframe, hopenType, hdecode, hcount, hnew⟩
        · exact hlt (hcount ▸ hr)
        · -- the `FrameOpen` in the switch has made the stream
          cases hframe
          obtain rfl : r = s.count := by lia
          simp only [FreshID, hthread] at hfresh
          exact (hfresh hopenType request hdecode).2 _ hg htype (hid.trans hnew)
    · -- the data in the switch has found no stream
      cases hg
      cases h with
      | moves h => cases h
      | handle h =>
        rcases h.data_cases htype with ⟨q, -, rfl, -⟩ | ⟨hnone, rfl⟩
        · simp [note] at heq
        · rw [goto_streams, goto_obj, ← hid] at hreg
          cases hreg.symm.trans hnone

/-- **A section keeps the frames in order.** -/
theorem Written.run (ho' : (s₁.goto t acts).Owned) (hfresh : s.FreshID json (.run t c)) :
    (s₁.goto t acts).Written json where
  composed _ _ hb _ _ hf := (Written.run_composed hwr ho hw hthread h hb hf :)
  output _ he := (Written.run_output hwr hw hthread h he :)
  opening _ _ hb _ _ hf _ he := (Written.run_opening hwr hs ho hw hthread h hb hf he :)
  opened _ _ _ _ hout _ he := (Written.run_opened hwr hthread h hout he :)
  unknown _ hr _ hg htype hid :=
    (Written.run_unknown hwr hw hthread h ho' hfresh hr hg htype hid :)

end Preservation

/-- **A call keeps the frames in order.** -/
theorem Written.call (hwr : s.Written json) (hw : s.Wf) (h : Called json s op s₁ acts) :
    (s₁.goto t acts).Written json := by
  obtain ⟨-, hout, hinput⟩ := h.streams_eq
  have hid : ∀ {q}, q < s.count → (s₁.obj q).id = (s.obj q).id := fun hq => (h.changed _).id_eq hq
  have hprefix : s.input <+: s₁.input := hinput ▸ List.prefix_rfl
  refine ⟨?_, ?_, ?_, ?_, ?_⟩
  · -- composed
    intro u b hb f purpose hf
    rcases h.writes_mem hb hf with hmem | ⟨rfl, htype⟩ | ⟨r, ack, rfl, howned, rfl⟩
    · refine (hwr.composed u b hmem f purpose hf).mono hprefix fun r hr => hid (hw.refs u b hmem r ?_)
      rcases hf with rfl | rfl <;> exact hr
    · exact htype
    · exact ⟨rfl, (hid (hw.owned_lt howned)).symm⟩
  · -- output
    intro e he
    rw [goto_output, hout] at he
    obtain ⟨hagrees, hfits⟩ := hwr.output e he
    exact ⟨hagrees.mono hprefix fun r hr => hid (hw.output e he r hr), hfits⟩
  · -- opening
    intro u b hb f r hf e he
    rw [goto_output, hout] at he
    rcases h.writes_mem hb hf with hmem | ⟨hp, -⟩ | ⟨_, _, hp, -⟩
    · exact hwr.opening u b hmem f r hf e he
    · cases hp
    · cases hp
  · intro pre f post r heq
    rw [goto_output, hout] at heq
    exact hwr.opened pre f post r heq
  · -- unknown
    intro r _ g hg htype hgid
    by_cases hactive : (s₁.goto t acts).Active r
    · have hbefore := h.active hactive
      have hr := hbefore.lt hw
      rw [goto_obj, hid hr] at hgid
      rw [goto_input, hinput] at hg
      refine (hwr.unknown r hr g hg htype hgid).elim (fun hclosed => Or.inl ?_) (absurd hbefore)
      rw [goto_obj, h.closed_eq hr]
      exact hclosed
    · exact Or.inr hactive

/-- **Every disciplined step that gives new streams new ids keeps the frames in order.** -/
theorem Written.steps (hwr : s.Written json) (hs : s.Sends) (ho : s.Owned) (hw : s.Wf)
    (h : Steps json s l s') (ho' : s'.Owned) (hfresh : s.FreshID json l) : s'.Written json := by
  cases h with
  | call hcalls hidle h => exact hwr.call hw h
  | run hthread h => exact hwr.run hs ho hw hthread h ho' hfresh

/-! ## Frames by type -/

theorem Agrees.allows (h : s.Agrees json f purpose) : purpose.allows f.type = true := by
  cases purpose with
  | opening r =>
    obtain ⟨request, rfl, -⟩ := h
    rfl
  | accepting r | rejecting r | chunk r _ _ => simp [Purpose.allows, h.1]
  | closing r =>
    rw [show f = closeFrame (s.obj r).id from h]
    rfl
  | reply n => obtain ⟨g, -, -, ⟨ht, -⟩ | ⟨ht, -⟩⟩ := h <;> simp [Purpose.allows, ht]
  | control => exact decide_eq_true h

theorem Agrees.of_data (h : s.Agrees json f purpose) (htype : f.type = frameData) :
    ∃ r rest inCopy, purpose = .chunk r rest inCopy ∧ f.id = (s.obj r).id := by
  have hallows := h.allows
  rw [htype] at hallows
  cases purpose with
  | chunk r rest inCopy => exact ⟨r, rest, inCopy, rfl, h.2⟩
  | _ => cases hallows

theorem Agrees.of_open (h : s.Agrees json f purpose) (htype : f.type = frameOpen) :
    ∃ r request, purpose = .opening r ∧ f = openFrame json request ∧
      request.requestID = (s.obj r).id := by
  have hallows := h.allows
  rw [htype] at hallows
  cases purpose with
  | opening r =>
    obtain ⟨request, hf, hid⟩ := h
    exact ⟨r, request, rfl, hf, hid⟩
  | _ => cases hallows

theorem Agrees.of_close (h : s.Agrees json f purpose) (htype : f.type = frameClose) :
    (∃ r, purpose = .closing r ∧ f.id = (s.obj r).id) ∨
      ∃ n g, purpose = .reply n ∧ s.input[n]? = some (g, none) ∧ g.type = frameData ∧
        f.id = g.id := by
  have hallows := h.allows
  rw [htype] at hallows
  cases purpose with
  | closing r => exact Or.inl ⟨r, rfl, by rw [show f = closeFrame (s.obj r).id from h]; rfl⟩
  | reply n =>
    obtain ⟨g, hg, hid, ⟨ht, -⟩ | ⟨-, hdata⟩⟩ := h
    · rw [htype] at ht
      exact absurd ht (by decide)
    · exact Or.inr ⟨n, g, rfl, hg, hdata, hid⟩
  | _ => cases hallows

/-- The data in a session's frames with the id of a stream is what the stream's writer sent. -/
theorem Written.dataOf_eq (hwr : s.Written json) (ho : s.Owned) (hw : s.Wf) (hr : r < s.count)
    {es : List (Frame × Purpose)} (hes : ∀ e ∈ es, e ∈ s.output) :
    dataOf (s.obj r).id (es.map Prod.fst) = sentIn r es := by
  induction es with
  | nil => rfl
  | cons e es ih =>
    have hmem := hes e (List.mem_cons_self ..)
    have hhead : (if e.1.type = frameData ∧ e.1.id = (s.obj r).id then e.1.payload else []) =
        sentIn r [e] := by
      simp only [sentIn, List.flatMap_cons, List.flatMap_nil, List.append_nil]
      by_cases hdata : e.1.type = frameData
      · obtain ⟨q, rest, inCopy, hp, hid⟩ := (hwr.output e hmem).1.of_data hdata
        have hq : q < s.count := hw.output e hmem q (by simp [hp, Purpose.refs])
        have hiff : (s.obj q).id = (s.obj r).id ↔ q = r :=
          ⟨ho.ids q hq r hr, fun heq => by rw [heq]⟩
        simp only [hp, hdata, hid, hiff, true_and]
      · rw [if_neg (fun hc => hdata hc.1)]
        split
        · next q rest inCopy hp =>
          have := (hwr.output e hmem).1
          rw [hp] at this
          exact absurd this.1 hdata
        · rfl
    have htail := ih fun e' he' => hes e' (List.mem_cons_of_mem _ he')
    rw [← List.singleton_append, sentIn_append, ← hhead, ← htail]
    rfl

/-! ## What the peer can rely on -/

/-- **The data a session sends for a stream is the first part of what was written to it.** -/
theorem Written.data_prefix (hwr : s.Written json) (hs : s.Sends) (ho : s.Owned) (hw : s.Wf)
    (hr : r < s.count) : dataOf (s.obj r).id (s.output.map Prod.fst) <+: (s.obj r).written := by
  rw [hwr.dataOf_eq ho hw hr fun _ => id]
  exact (List.prefix_append ..).trans (hs.flows r).order

/-- **A `FrameClose` for an open stream stands behind all of its data.** -/
theorem Written.data_before_close (hwr : s.Written json) (hs : s.Sends) (ho : s.Owned) (hw : s.Wf)
    (hr : r < s.count) (hopen : (s.obj r).closed = false) {pre post : List (Frame × Purpose)}
    (hout : s.output = pre ++ (f, purpose) :: post) (htype : f.type = frameClose)
    (hid : f.id = (s.obj r).id) :
    dataOf (s.obj r).id (pre.map Prod.fst) = (s.obj r).written := by
  have hmem : (f, purpose) ∈ s.output := by rw [hout]; simp
  have hpre : ∀ e ∈ pre, e ∈ s.output := fun e he => by rw [hout]; exact List.mem_append_left _ he
  rw [hwr.dataOf_eq ho hw hr hpre]
  rcases (hwr.output _ hmem).1.of_close htype with ⟨q, rfl, hq⟩ | ⟨n, g, rfl, hg, hdata, hgid⟩
  · have hlt : q < s.count := hw.output _ hmem q (by simp [Purpose.refs])
    obtain rfl : q = r := ho.ids q hlt r hr (hq.symm.trans hid)
    rcases (hs.closed pre f post q hout).2 with hclosed | hall
    · rw [hopen] at hclosed
      cases hclosed
    · exact hall
  · -- the read loop has answered data for an id that no stream in use has
    have hno : ¬ s.Active r := by
      rcases hwr.unknown r hr g (List.mem_of_getElem? hg) hdata (hgid.symm.trans hid) with
        hclosed | hno
      · rw [hopen] at hclosed
        cases hclosed
      · exact hno
    have hempty : (s.obj r).written = [] := by
      by_contra hne
      exact hno (Or.inl (Or.inl (hs.written r hne)))
    have hprefix : sentIn r pre <+: (s.obj r).written := by
      refine List.IsPrefix.trans ?_ ((List.prefix_append ..).trans (hs.flows r).order)
      rw [sent, hout, sentIn_append]
      exact List.prefix_append ..
    rw [hempty, List.prefix_nil] at hprefix
    rw [hempty, hprefix]

end Session

end LnProxy
