import LnProxy.Link.Basic

set_option autoImplicit false

/-! # One direction of a relay between two sessions (`copyDirection`)

At the server `session.Relay` joins a stream of a client's session and a stream of an exit's session.
Each of its two goroutines runs `io.Copy(dst, src)`, which hands to `dst.Write` what `src.Read` has
returned, and then `dst.CloseWrite()`. A session on its own leaves open what a source returns
(`Choice.source`, `Choice.sourceEnd`); here the source is a stream of another session, and
`copyWrites` and `copyReads` say what the goroutine does then. `Copied` is what holds at every moment
of such a copy, whatever the rest of both sessions does in between. -/

namespace LnProxy

open Protocol

/-! ## How a stream changes on the reading side -/

namespace Stream.Evolves

variable {x y : Stream}

theorem got_prefix (h : x.Evolves y) : x.got <+: y.got := by
  cases h with
  | copyOut => exact List.prefix_append ..
  | _ => exact List.prefix_rfl

theorem got_eq (h : x.Evolves y) (hbuf : x.readBuf = []) : y.got = x.got := by
  cases h with
  | copyOut => simp [Stream.copyOut, hbuf]
  | _ => rfl

theorem gotEOF_mono (h : x.Evolves y) (heof : x.gotEOF = true) : y.gotEOF = true := by
  cases h with
  | gotEOF _ _ => rfl
  | _ => exact heof

theorem sourceErr_mono (h : x.Evolves y) (hfailed : x.sourceErr ≠ none) : y.sourceErr ≠ none := by
  cases h with
  | sourceErr => simp
  | _ => exact hfailed

end Stream.Evolves

namespace Session

variable {json : Codec} {s s' s₁ : Session} {t : Tid} {a : Act} {c : Choice} {k acts : List Act}
  {l : Label} {op : Op} {q r : Ref}

theorem Steps.evolves (hw : s.Wf) (h : Steps json s l s') (hr : r < s.count) :
    (s.obj r).Evolves (s'.obj r) := by
  cases h with
  | call hcalls hidle h =>
    exact (h.changed r).evolves_of_lt hr
  | @run t _ _ _ _ _ hthread h =>
    exact (hw.changed hthread h r).evolves_of_lt hr

theorem Steps.count_le (h : Steps json s l s') : s.count ≤ s'.count := by
  cases h with
  | call hcalls hidle h =>
    rcases h.count_eq with heq | ⟨-, -, heq, -⟩ <;> rw [goto_count, heq]
    exact Nat.le_succ _
  | run hthread h => exact h.count_le

/-! ## The goroutine -/

/-- What the goroutine of `copyDirection(dst, src)` lets happen to the stream `r` it writes to. It
    writes what `Read` of the stream `q` has returned since the last time, it ends with `io.EOF` or
    with an error when `Read` does, and nobody else writes to the stream. `CloseWrite` is called at
    the end of `Relay` once more, when there is nothing left to do, and instead of `Relay` when
    `Accept` has failed, which closes the stream `q`. -/
def copyWrites (src : Session) (q : Ref) (dst : Session) (r : Ref) : Label → Bool
  | .run t (.source p) =>
    decide ((dst.threads t).head? ≠ some (.copyLoop r) ∨
      src.threads (.reader q) = [] ∧ p ≠ [] ∧ (src.obj q).got = (dst.obj r).written ++ p)
  | .run t (.sourceEnd none) =>
    decide ((dst.threads t).head? ≠ some (.copyLoop r) ∨
      src.threads (.reader q) = [] ∧ (src.obj q).gotEOF = true ∧
        (src.obj q).got = (dst.obj r).written)
  | .run t (.sourceEnd (some err)) =>
    decide ((dst.threads t).head? ≠ some (.copyLoop r) ∨
      src.threads (.reader q) = [] ∧ (src.obj q).readErr = some err ∧
        (src.obj q).readBuf = [] ∧ (src.obj q).got = (dst.obj r).written)
  | .call _ (.write r' _) => decide (r' ≠ r)
  | .call _ (.closeWrite r') =>
    decide (r' ≠ r ∨ (dst.obj r).localEOF = true ∨ (dst.obj r).closed = true ∨
      (src.obj q).closed = true)
  | _ => true

/-- The goroutine reads from the stream `q` between two writes, so when it has written all it got. -/
def copyReads (src : Session) (q : Ref) (dst : Session) (r : Ref) : Label → Bool
  | .call _ (.read q' _) =>
    decide (q' ≠ q ∨ dst.threads (.writer r) = [.copyLoop r] ∧
      (dst.obj r).written = (src.obj q).got)
  | _ => true

/-- `CloseWrite` was called for stream `r`. -/
def Ending (s : Session) (r : Ref) : Prop :=
  .closeWrite r ∈ s.threads (.writer r) ∨ (s.obj r).localEOF = true

/-- How a copy ends: at the end of `q` and after all of it was written to `r`, or because one of the
    two streams was closed by force or reading from `q` has failed. -/
def CopyEnded (src : Session) (q : Ref) (dst : Session) (r : Ref) : Prop :=
  dst.Stopped r ∨ (dst.obj r).sourceErr ≠ none ∨ (src.obj q).closed = true ∨
    (src.obj q).gotEOF = true ∧ (dst.obj r).written = (src.obj q).got

/-- What was written to `r` was read from `q`, and `CloseWrite` was called for `r` only when the copy
    had ended. -/
structure Copied (src : Session) (q : Ref) (dst : Session) (r : Ref) : Prop where
  moved : (dst.obj r).written <+: (src.obj q).got
  ended : dst.Ending r → CopyEnded src q dst r

/-! ## Steps of the session that is read from -/

variable {src src' dst dst' : Session}

/-- **A step of the session that is read from keeps the copy.** -/
theorem Copied.src_steps (h : Copied src q dst r) (hsrc : src.Inv json) (hq : q < src.count)
    (hsteps : Steps json src l src') : Copied src' q dst r := by
  have hev := hsteps.evolves hsrc.wf hq
  refine ⟨h.moved.trans hev.got_prefix, fun hending => ?_⟩
  rcases h.ended hending with hstop | hfailed | hclosed | ⟨heof, hall⟩
  · exact Or.inl hstop
  · exact Or.inr (Or.inl hfailed)
  · exact Or.inr (Or.inr (Or.inl (hev.keeps.closed hclosed)))
  · -- after `io.EOF` there is nothing left to read
    have hbuf := (hsrc.received.eof q hq heof).1
    exact Or.inr (Or.inr (Or.inr ⟨hev.gotEOF_mono heof, by rw [hev.got_eq hbuf, hall]⟩))

/-! ## Steps of the session that is written to -/

/-- How a goroutine comes to `CloseWrite`. -/
theorem Ran.closeWrite_mem (hw : s.Wf) (h : Ran json s t k a c s₁ acts)
    (hmem : .closeWrite r ∈ acts) :
    .closeWrite r ∈ k ∨ (s.obj r).closed = true ∨ (∃ err, .forceClose r err ∈ acts) ∨
      a = .copyLoop r ∧ ∃ err, c = .sourceEnd err := by
  have honErr : ∀ (purpose : Purpose) (err : Err), .closeWrite r ∈ purpose.onErr err →
      .forceClose r err ∈ purpose.onErr err := by
    intro purpose err hp
    cases purpose with
    | chunk q rest inCopy => cases inCopy <;> simp_all [Purpose.onErr]
    | _ => simp [Purpose.onErr] at hp
  cases h with
  | moves h =>
    rcases List.mem_append.1 hmem with hnew | hmem
    · cases h with
      | writeFrameRefused _ | oversized _ | failed _ =>
        exact Or.inr (Or.inr (Or.inl ⟨_, List.mem_append_left _ (honErr _ _ hnew)⟩))
      | @writeRefused q p inCopy hrefused =>
        obtain rfl : r = q := by cases inCopy <;> simp_all [afterRefusedWrite]
        exact Or.inr (Or.inl (hrefused.elim (hw.ok r).writeErr.2 id))
      | sourceEOF => exact Or.inr (Or.inr (Or.inr ⟨by simp_all, none, rfl⟩))
      | @writeEmpty q inCopy => cases inCopy <;> simp [afterEmptyWrite] at hnew
      | _ => simp at hnew
    · exact Or.inl hmem
  | sourceErr =>
    rcases List.mem_cons.1 hmem with heq | hmem
    · cases heq
      exact Or.inr (Or.inr (Or.inr ⟨rfl, _, rfl⟩))
    · exact Or.inl hmem
  | handle h => cases h <;> simp_all
  | @wrote frame purpose _ =>
    rcases List.mem_append.1 hmem with hnew | hmem
    · cases purpose with
      | chunk q rest inCopy =>
        simp only [Purpose.onOk] at hnew
        split at hnew
        · cases inCopy <;> simp at hnew
        · simp at hnew
      | _ => simp [Purpose.onOk] at hnew
    · exact Or.inl hmem
  | _ => exact Or.inl (by simpa using hmem)

theorem Ran.written_cases (hw : s.Wf) (hthread : s.threads t = a :: k)
    (h : Ran json s t k a c s₁ acts) (r : Ref) : (s₁.obj r).written = (s.obj r).written ∨
      ∃ p, a = .copyLoop r ∧ c = .source p ∧ (s₁.obj r).written = (s.obj r).written ++ p := by
  by_cases ha : a.writes r = true
  · cases h with
    | @source q p =>
      obtain rfl : q = r := of_decide_eq_true ha
      exact Or.inr ⟨p, rfl, rfl, by simp [modify]⟩
    | moves _ | wrote _ => exact Or.inl rfl
    | @sourceErr q err =>
      obtain rfl : q = r := of_decide_eq_true ha
      exact Or.inl (by simp [modify])
    | _ => cases ha
  · exact Or.inl (h.written_eq hw hthread (Bool.eq_false_of_not_eq_true ha))

/-- As long as the goroutine writes, it has not come to `CloseWrite`. -/
theorem Inv.not_ending (hs : s.Inv json) (hthread : s.threads t = a :: k)
    (ha : a.writes r = true) : ¬ s.Ending r := by
  have hamem := mem_of_head hthread
  obtain ⟨rfl, rfl⟩ := Sends.alone hs.sends hs.owned.onOwner hthread
    (show a.onWriter r = true by rw [Act.onWriter, ha, Bool.true_or])
  rintro (hmem | hlocal)
  · rw [hthread, List.mem_singleton] at hmem
    subst hmem
    cases ha
  · rw [hs.sends.localOpen _ a hamem r ha] at hlocal
    cases hlocal

/-- The goroutine comes to `CloseWrite` at the end of its source, or because the stream it writes to
    is closed. -/
theorem Ran.ending (hs : s.Inv json) (hthread : s.threads t = a :: k)
    (h : Ran json s t k a c s₁ acts) (hending : (s₁.goto t acts).Ending r) :
    s.Ending r ∨ (s₁.goto t acts).Stopped r ∨ a = .copyLoop r ∧ ∃ err, c = .sourceEnd err := by
  rcases hending with hmem | hlocal
  · by_cases ht : Tid.writer r = t
    · subst ht
      rw [goto_threads_self] at hmem
      rcases h.closeWrite_mem hs.wf hmem with hold | hclosed | ⟨err, hforce⟩ | hsource
      · exact Or.inl (Or.inl (mem_of_tail hthread hold))
      · exact Or.inr (Or.inl (Or.inl ((h.keeps hs.wf hthread r).closed hclosed)))
      · exact Or.inr (Or.inl (Or.inr ⟨err, by rwa [goto_threads_self]⟩))
      · exact Or.inr (Or.inr hsource)
    · rw [h.threads_of_ne ht (by simp)] at hmem
      exact Or.inl (Or.inl hmem)
  · rcases h.localEOF hlocal with hlocal | rfl
    · exact Or.inl (Or.inr hlocal)
    · obtain ⟨rfl, rfl⟩ := Sends.alone hs.sends hs.owned.onOwner hthread
        (show (Act.closeWrite r).onWriter r = true by simp [Act.onWriter, Act.closes])
      exact Or.inl (Or.inl (mem_of_head hthread))

/-- A copy that has ended stays so as long as nothing more is written. -/
theorem CopyEnded.dst_evolves (h : CopyEnded src q dst r)
    (hev : (dst.obj r).Evolves (dst'.obj r)) (hstop : dst.Stopped r → dst'.Stopped r)
    (hwritten : (dst'.obj r).written = (dst.obj r).written) : CopyEnded src q dst' r := by
  rcases h with h | hfailed | hclosed | ⟨heof, hall⟩
  · exact Or.inl (hstop h)
  · exact Or.inr (Or.inl (hev.sourceErr_mono hfailed))
  · exact Or.inr (Or.inr (Or.inl hclosed))
  · exact Or.inr (Or.inr (Or.inr ⟨heof, hwritten.trans hall⟩))

theorem Copied.dst_run (h : Copied src q dst r) (hdst : dst.Inv json) (hr : r < dst.count)
    (hthread : dst.threads t = a :: k) (hran : Ran json dst t k a c s₁ acts)
    (hok : copyWrites src q dst r (.run t c) = true) : Copied src q (s₁.goto t acts) r := by
  have hhead : a = .copyLoop r → (dst.threads t).head? = some (.copyLoop r) := by
    rintro rfl
    rw [hthread]
    rfl
  have hwritten := hran.written_cases hdst.wf hthread r
  refine ⟨?_, fun hending => ?_⟩
  · show (s₁.obj r).written <+: _
    rcases hwritten with hsame | ⟨p, ha, rfl, hmore⟩
    · rw [hsame]
      exact h.moved
    · -- what is written is what `Read` has returned
      rcases of_decide_eq_true hok with hno | ⟨-, -, hgot⟩
      · exact absurd (hhead ha) hno
      · exact hmore.trans hgot.symm ▸ List.prefix_rfl
  · rcases hran.ending hdst hthread hending with hold | hstop | ⟨rfl, err, rfl⟩
    · refine (h.ended hold).dst_evolves ((Steps.run hthread hran).evolves hdst.wf hr)
        (Stopped.run hdst.wf hthread hran) ?_
      rcases hwritten with hsame | ⟨p, rfl, -, -⟩
      · exact hsame
      · exact absurd hold (hdst.not_ending hthread (by simp [Act.writes]))
    · exact Or.inl hstop
    · cases err with
      | some err =>
        refine Or.inr (Or.inl ?_)
        cases hran with
        | moves h => cases h
        | sourceErr => simp [modify]
      | none =>
        rcases of_decide_eq_true hok with hno | ⟨-, heof, hgot⟩
        · exact absurd (hhead rfl) hno
        · refine Or.inr (Or.inr (Or.inr ⟨heof, ?_⟩))
          cases hran with
          | moves h => exact hgot.symm

theorem Copied.dst_call (h : Copied src q dst r) (hdst : dst.Inv json) (hr : r < dst.count)
    (hcalls : t.calls = true) (hidle : dst.threads t = []) (hcalled : Called json dst op s₁ acts)
    (hok : copyWrites src q dst r (.call t op) = true) : Copied src q (s₁.goto t acts) r := by
  obtain ⟨-, hclosed, hlocal, hwritten⟩ := hcalled.fields hdst.wf r
  have hwritten : (s₁.obj r).written = (dst.obj r).written := by
    rcases hwritten with hsame | ⟨p, rfl, -⟩
    · exact hsame
    · exact absurd rfl (of_decide_eq_true hok)
  have hstop : dst.Stopped r → (s₁.goto t acts).Stopped r := by
    rintro (hc | ⟨err, hmem⟩)
    · exact Or.inl (hclosed.trans hc)
    · -- the goroutine is busy, so the call is not its own
      have ht : Tid.writer r ≠ t := by
        rintro rfl
        rw [hidle] at hmem
        cases hmem
      exact Or.inr ⟨err, by rwa [hcalled.threads_of_ne ht rfl]⟩
  have hold : dst.Ending r → CopyEnded src q (s₁.goto t acts) r := fun hending =>
    (h.ended hending).dst_evolves ((Steps.call hcalls hidle hcalled).evolves hdst.wf hr) hstop
      hwritten
  refine ⟨?_, ?_⟩
  · show (s₁.obj r).written <+: _
    rw [hwritten]
    exact h.moved
  · rintro (hmem | hend)
    · by_cases ht : Tid.writer r = t
      · subst ht
        rw [goto_threads_self] at hmem
        cases hcalled with
        | @closeWrite r' howned =>
          obtain rfl : r = r' := by simpa using hmem
          rcases of_decide_eq_true hok with hne | hend | hc | hsrc
          · exact absurd rfl hne
          · exact hold (Or.inr hend)
          · exact Or.inl (Or.inl hc)
          · exact Or.inr (Or.inr (Or.inl hsrc))
        | _ => simp at hmem
      · rw [hcalled.threads_of_ne ht rfl] at hmem
        exact hold (Or.inl hmem)
    · exact hold (Or.inr (hlocal ▸ hend))

/-- **A step of the session that is written to keeps the copy.** -/
theorem Copied.dst_steps (h : Copied src q dst r) (hdst : dst.Inv json) (hr : r < dst.count)
    (hok : copyWrites src q dst r l = true) (hsteps : Steps json dst l dst') :
    Copied src q dst' r := by
  cases hsteps with
  | call hcalls hidle hcalled => exact h.dst_call hdst hr hcalls hidle hcalled hok
  | run hthread hran => exact h.dst_run hdst hr hthread hran hok

/-- **A relay is two copies**, and a step of one of its two sessions keeps both. -/
theorem Copied.steps (hfrom : Copied s q dst r) (hto : Copied dst r s q) (hs : s.Inv json)
    (hq : q < s.count) (hok : copyWrites dst r s q l = true) (hsteps : Steps json s l s') :
    Copied s' q dst r ∧ Copied dst r s' q :=
  ⟨hfrom.src_steps hs hq hsteps, hto.dst_steps hs hq hok hsteps⟩

end Session

end LnProxy
