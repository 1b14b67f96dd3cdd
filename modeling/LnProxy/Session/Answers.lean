import LnProxy.Session.Frames

set_option autoImplicit false

/-! # Frames that answer

A session answers a `FrameOpen` with a `FrameOpenAck` for the stream it made, or with a `FrameError`
when the request is invalid. What is answered is a `Token`: a stream, or a frame the read loop has
handled. All sections that write an answer for a token run on one goroutine (`Token.home`), and the
next one begins when the one before it is over, so a token for which at most one answer is begun is
answered at most once (`Once`). -/

namespace LnProxy

open Protocol

/-- What an answer is for. -/
inductive Token where
  | stream (r : Ref)
  /-- The `n`-th frame the read loop handled. -/
  | frame (n : Nat)
  deriving DecidableEq, Repr

def Purpose.token : Purpose → Option Token
  | .accepting r | .rejecting r => some (.stream r)
  | .reply n => some (.frame n)
  | _ => none

/-- The token a section is about to answer. -/
def Act.token : Act → Option Token
  | .accept r => some (.stream r)
  | .writeFrame _ purpose | .emit _ purpose => purpose.token
  | _ => none

/-- Sections that neither accept a stream, hand it out, nor close it. -/
def Act.steady : Act → Bool
  | .accept _ | .dispatch _ | .overflow _ | .forceClose _ _ | .forceCloseAll _ _ => false
  | _ => true

/-- The goroutine that answers: the stream's handler, or the read loop. -/
def Token.home : Token → Tid
  | .stream r => .user r
  | .frame _ => .readLoop

theorem Act.follows_of_token {a : Act} {τ : Token} (h : a.token = some τ) : a.follows = false := by
  cases a <;> first | rfl | cases h

theorem Act.token_of_writesFrame {a : Act} {f : Frame} {purpose : Purpose}
    (h : a.writesFrame f purpose) : a.token = purpose.token := by
  rcases h with rfl | rfl <;> rfl

theorem Act.follows_of_writesFrame {a : Act} {f : Frame} {purpose : Purpose}
    (h : a.writesFrame f purpose) : a.follows = false := by
  rcases h with rfl | rfl <;> rfl

theorem Act.onWriter_of_writes {a : Act} {r : Ref} (h : a.writes r = true) : a.onWriter r = true := by
  simp [Act.onWriter, h]

/-- A section that answers writes a frame, or checks first that it may. -/
theorem Act.cases_of_token {a : Act} {τ : Token} (h : a.token = some τ) :
    (∃ r, a = .accept r ∧ τ = .stream r) ∨
      ∃ f purpose, a.writesFrame f purpose ∧ purpose.token = some τ := by
  cases a with
  | accept r => exact Or.inl ⟨r, rfl, (Option.some.inj h).symm⟩
  | writeFrame f purpose => exact Or.inr ⟨f, purpose, Or.inl rfl, h⟩
  | emit f purpose => exact Or.inr ⟨f, purpose, Or.inr rfl, h⟩
  | _ => cases h

namespace Session

variable {json : Codec} {s s' s₁ : Session} {t : Tid} {a : Act} {c : Choice} {k acts : List Act}
  {l : Label} {op : Op} {r : Ref} {τ : Token}

/-! ## Where sections come from -/

/-- The peer has opened stream `r`. -/
def Incoming (s : Session) (r : Ref) : Prop :=
  ∃ frame, (frame, some r) ∈ s.input ∧ frame.type = frameOpen

/-- The connection takes every frame that is written. -/
def writesSucceed (s : Session) : Label → Bool
  | .run _ (.failed _ _) => false
  | .run t .go =>
    match s.threads t with
    | .emit frame _ :: _ => decide frame.fits
    | _ => true
  | _ => true

/-- How a section `b` comes about when goroutine `t` runs `a` with choice `c`. -/
inductive Next (s s₁ : Session) (t : Tid) (c : Choice) (a : Act) : Act → Prop where
  | steady {b : Act} (h : b.steady = true) : Next s s₁ t c a b
  | dispatch {r : Ref} (h : s₁.Incoming r) : Next s s₁ t c a (.dispatch r)
  | sweep {rs : List Ref} {err : Err}
      (h : s₁.closed = true ∨ ∃ rs' err', a = .forceCloseAll rs' err') :
      Next s s₁ t c a (.forceCloseAll rs err)
  /-- `Open` gives its stream up. -/
  | opens {r : Ref} {err : Err} (h : a.opens r = true) : Next s s₁ t c a (.forceClose r err)
  | refused {r : Ref} {err : Err} (h : s.refuses = true) : Next s s₁ t c a (.forceClose r err)
  | failed {r : Ref} {err : Err} (h : s.writesSucceed (.run t c) = false) :
      Next s s₁ t c a (.forceClose r err)
  | swept {r : Ref} {err err' : Err} {rs : List Ref} (ha : a = .forceCloseAll rs err') :
      Next s s₁ t c a (.forceClose r err)
  | aborted {r : Ref} {err : Err} {frame : Frame} (ha : a = .handle frame)
      (htype : frame.type = frameError) (hinput : s₁.input = s.input ++ [(frame, some r)]) :
      Next s s₁ t c a (.forceClose r err)
  | done {r : Ref} {err : Err} (h : (s.obj r).done = true) : Next s s₁ t c a (.forceClose r err)

/-- The sections after a failed write. -/
theorem onErr_next (purpose : Purpose) (err : Err)
    (h : s.refuses = true ∨ s.writesSucceed (.run t c) = false) :
    ∀ b ∈ purpose.onErr err, Next s s t c a b := by
  have hclose : ∀ r, Next s s t c a (.forceClose r err) := by
    intro r
    rcases h with h | h
    · exact .refused h
    · exact .failed h
  cases purpose with
  | «opening» r => simp [Purpose.onErr, hclose, Next.steady (b := .removeStream r) rfl]
  | chunk r rest inCopy =>
    have hclosing : Next s s t c a (.closeWrite r) := .steady rfl
    cases inCopy <;> simp [Purpose.onErr, hclose, hclosing]
  | _ => simp [Purpose.onErr, hclose]

theorem Moves.next (hthread : s.threads t = a :: k) (h : Moves json s a c acts) :
    ∀ b ∈ acts, Next s s t c a b := by
  cases h with
  | openContext =>
    simp only [List.forall_mem_cons]
    exact ⟨.steady rfl, .opens (by simp [Act.opens]), by simp⟩
  | overflowDone h =>
    simp only [List.forall_mem_singleton]
    exact .refused (by simp [refuses, h])
  | writeFrameRefused h => exact onErr_next _ _ (Or.inl h)
  | oversized h => exact onErr_next _ _ (Or.inr (by simp [writesSucceed, hthread, h]))
  | failed _ => exact onErr_next _ _ (Or.inr rfl)
  | pick _ =>
    simp only [List.forall_mem_cons]
    exact ⟨.swept rfl, .sweep (Or.inr ⟨_, _, rfl⟩), by simp⟩
  | deliverDone _ h =>
    simp only [List.forall_mem_singleton]
    exact .done h
  | @writeEmpty _ inCopy | @writeRefused _ _ inCopy _ =>
    refine fun b hb => .steady ?_
    cases inCopy <;> simp [afterEmptyWrite, afterRefusedWrite] at hb
    rw [hb]
    rfl
  | _ =>
    refine fun b hb => .steady ?_
    revert b
    simp [Act.steady]

theorem onOk_steady (purpose : Purpose) : ∀ b ∈ purpose.onOk, b.steady = true := by
  cases purpose with
  | chunk r rest inCopy =>
    simp only [Purpose.onOk]
    split
    · cases inCopy <;> simp [Act.steady]
    · simp [Act.steady]
  | _ => simp [Purpose.onOk, Act.steady]

/-- A section on the goroutine that runs was there before, or comes about in the step. -/
theorem Ran.next (hthread : s.threads t = a :: k) (h : Ran json s t k a c s₁ acts) :
    ∀ b ∈ acts, b ∈ k ∨ Next s s₁ t c a b := by
  cases h with
  | moves h =>
    intro b hb
    rcases List.mem_append.1 hb with hb | hb
    · exact Or.inr (h.next hthread b hb)
    · exact Or.inl hb
  | wrote _ =>
    intro b hb
    rcases List.mem_append.1 hb with hb | hb
    · exact Or.inr (.steady (onOk_steady _ b hb))
    · exact Or.inl hb
  | openRejected _ _ =>
    simp only [List.forall_mem_cons]
    exact ⟨Or.inr (.steady rfl), Or.inr (.opens (by simp [Act.opens])), fun b hb => Or.inl hb⟩
  | shutdown _ =>
    simp only [List.forall_mem_cons]
    exact ⟨Or.inr (.sweep (Or.inl rfl)), fun b hb => Or.inl hb⟩
  | forceClose _ =>
    simp only [List.forall_mem_cons]
    exact ⟨Or.inr (.steady rfl), Or.inr (.steady rfl), fun b hb => Or.inl hb⟩
  | handle h =>
    cases h with
    | openNew htype _ _ =>
      simp only [List.forall_mem_cons]
      refine ⟨Or.inr (.dispatch ⟨_, ?_, htype⟩), fun b hb => Or.inl hb⟩
      exact List.mem_append_right _ (List.mem_singleton.2 rfl)
    | openClosed _ _ h =>
      simp only [List.forall_mem_cons]
      exact ⟨Or.inr (.refused (by simp [refuses, h])), fun b hb => Or.inl hb⟩
    | error htype _ =>
      simp only [List.forall_mem_cons]
      exact ⟨Or.inr (.aborted rfl htype rfl), fun b hb => Or.inl hb⟩
    | unknown _ _ | control _ _ _ _ => exact fun b hb => Or.inl hb
    | ackInvalid _ | unexpectedControl _ _ _ _ =>
      simp only [List.forall_mem_cons]
      exact ⟨Or.inr (.steady rfl), Or.inr (.steady rfl), by simp⟩
    | _ =>
      simp only [List.forall_mem_cons]
      exact ⟨Or.inr (.steady rfl), fun b hb => Or.inl hb⟩
  | openInsert _ _ | dispatchHandler _ | dispatchDrop _ _ | readChunk _ | closeWrite _ _
  | deliverPanic _ _ | remoteClose _ | closeReadsPanic _ | source | sourceErr =>
    simp only [List.forall_mem_cons]
    exact ⟨Or.inr (.steady rfl), fun b hb => Or.inl hb⟩
  | _ => exact fun b hb => Or.inl hb

/-- No section goes on with `Accept`; it only begins there. -/
theorem Ran.accept_mem (hthread : s.threads t = a :: k) (h : Ran json s t k a c s₁ acts)
    (hb : .accept r ∈ acts) : .accept r ∈ k := by
  rcases h.next hthread _ hb with hmem | hnext
  · exact hmem
  · cases hnext with
    | steady h => cases h

/-- A section that answers waits while others run, or has come about in this step: from another
    section that answers the same token, or from the switch on the frame that is answered. -/
theorem Ran.token_mem (hw : s.Wf) (hthread : s.threads t = a :: k) (h : Ran json s t k a c s₁ acts)
    {u : Tid} {b : Act} (hb : b ∈ (s₁.goto t acts).threads u) (hτ : b.token = some τ) :
    u ≠ t ∧ b ∈ s.threads u ∨ u = t ∧ s₁.output = s.output ∧
      (a.token = some τ ∧ s₁ = s ∨
        u = .readLoop ∧ τ = .frame s.input.length ∧ s₁.input.length = s.input.length + 1) := by
  have hamem := mem_of_head hthread
  rcases h.mem_acts hb with hold | ⟨rfl, hacts⟩ | ⟨q, -, rfl, -⟩
  · exact Or.inl hold
  · refine Or.inr ⟨rfl, ?_⟩
    have hk : b ∉ k := by
      intro hmem
      have := hw.follows u b (by rw [hthread]; exact hmem)
      rw [Act.follows_of_token hτ] at this
      cases this
    rcases Act.cases_of_token hτ with ⟨r, rfl, -⟩ | ⟨f, purpose, hf, hpurpose⟩
    · exact absurd (h.accept_mem hthread hacts) hk
    · rcases h.composed hacts hf with hmem | ⟨rfl, rfl⟩ | hcomposed
      · exact absurd hmem hk
      · exact ⟨rfl, Or.inl ⟨hpurpose, rfl⟩⟩
      · have houtput : s₁.output = s.output := by
          rcases h.output with heq | ⟨f', p', rfl, -⟩
          · exact heq
          · cases hcomposed
        refine ⟨houtput, ?_⟩
        cases hcomposed with
        | accepting heq => exact Or.inl ⟨hpurpose, heq⟩
        | opening | chunk _ | closing _ _ => cases hpurpose
        | invalid _ hinput | unknown _ hinput =>
          refine Or.inr ⟨of_decide_eq_true (hw.runsOn u _ hamem), ?_, ?_⟩
          · exact (Option.some.inj hpurpose).symm
          · rw [hinput, List.length_append]
            rfl
  · cases hτ

/-- Calls begin no answers, other than those of `Accept` and `Reject`. -/
theorem Called.token_mem (h : Called json s op s₁ acts) {u : Tid} {b : Act}
    (hb : b ∈ (s₁.goto t acts).threads u) (hτ : b.token = some τ) : b ∈ s.threads u ∨
      u = t ∧ ∃ r, τ = .stream r ∧ (op = .accept r ∨ ∃ message, op = .reject r message) := by
  have hnew : ∀ b ∈ acts, b.token = some τ →
      ∃ r, τ = .stream r ∧ (op = .accept r ∨ ∃ message, op = .reject r message) := by
    cases h <;> simp +contextual [Act.token, Purpose.token]
  rcases h.mem_threads hb with hmem | ⟨rfl, hacts⟩ | ⟨-, rfl⟩ | ⟨-, rfl⟩
  · exact Or.inl hmem
  · exact Or.inr ⟨rfl, hnew b hacts hτ⟩
  · cases hτ
  · cases hτ

/-! ## At most one answer -/

/-- The frames that answer a token. -/
def answers (s : Session) (τ : Token) : List (Frame × Purpose) :=
  s.output.filter fun e => decide (e.2.token = some τ)

/-- An answer for the token has been begun: a handler has, or the frame was handled. -/
def Begun (s : Session) (answered : Ref → Prop) : Token → Prop
  | .stream r => answered r
  | .frame n => n < s.input.length

/-- Tokens are answered on their goroutine, and at most once. -/
structure Once (answered : Ref → Prop) (s : Session) : Prop where
  home : ∀ t, ∀ a ∈ s.threads t, ∀ τ, a.token = some τ → t = τ.home
  unsent : ∀ t, ∀ a ∈ s.threads t, ∀ τ, a.token = some τ → s.answers τ = []
  once : ∀ τ, (s.answers τ).length ≤ 1
  pending : ∀ t, ∀ a ∈ s.threads t, ∀ τ, a.token = some τ → s.Begun answered τ
  sent : ∀ τ, s.answers τ ≠ [] → s.Begun answered τ

variable {answered : Ref → Prop}

theorem new_once (answered : Ref → Prop) (bufferSize : Nat) :
    Once answered (Session.new bufferSize) where
  home := by simp [Session.new]
  unsent := by simp [Session.new]
  once τ := Nat.zero_le _
  pending := by simp [Session.new]
  sent τ h := absurd rfl h

theorem mem_answers {e : Frame × Purpose} :
    e ∈ s.answers τ ↔ e ∈ s.output ∧ e.2.token = some τ := by
  simp only [answers, List.mem_filter, decide_eq_true_eq]

theorem Once.answers_eq (honce : Once answered s) {e : Frame × Purpose} (he : e ∈ s.answers τ) :
    s.answers τ = [e] := by
  have hpos : 1 ≤ (s.answers τ).length := List.length_pos_of_mem he
  obtain ⟨e', heq⟩ := List.length_eq_one_iff.1 (Nat.le_antisymm (honce.once τ) hpos)
  rw [heq] at he
  rw [heq, List.mem_singleton.1 he]

theorem answers_goto (s : Session) (t : Tid) (acts : List Act) :
    (s.goto t acts).answers τ = s.answers τ := rfl

theorem answers_of_output (h : s₁.output = s.output) (τ : Token) : s₁.answers τ = s.answers τ := by
  unfold answers
  rw [h]

theorem Begun.mono (h : s.Begun answered τ) (hinput : s.input.length ≤ s₁.input.length) :
    s₁.Begun answered τ := by
  cases τ with
  | stream r => exact h
  | frame n => exact Nat.lt_of_lt_of_le h hinput

theorem Once.imp {answered' : Ref → Prop} (honce : Once answered s)
    (h : ∀ r, answered r → answered' r) : Once answered' s := by
  have hbegun : ∀ τ, s.Begun answered τ → s.Begun answered' τ := by
    intro τ hτ
    cases τ with
    | stream r => exact h r hτ
    | frame n => exact hτ
  exact ⟨honce.home, honce.unsent, honce.once,
    fun t a ha τ hτ => hbegun τ (honce.pending t a ha τ hτ),
    fun τ hτ => hbegun τ (honce.sent τ hτ)⟩

/-- A section that writes its frame: what is answered is no longer about to be. -/
theorem Once.emitted (hw : s.Wf) (honce : Once answered s) (hthread : s.threads t = a :: k)
    (h : Ran json s t k a c s₁ acts) {f : Frame} {purpose : Purpose} (ha : a = .emit f purpose)
    (houtput : s₁.output = s.output ++ [(f, purpose)]) {u : Tid} {b : Act}
    (hb : b ∈ (s₁.goto t acts).threads u) (hτ : b.token = some τ) :
    u ≠ t ∧ b ∈ s.threads u ∧ purpose.token ≠ some τ := by
  have hamem := mem_of_head hthread
  rcases h.token_mem hw hthread hb hτ with ⟨hu, hmem⟩ | ⟨-, hsame, -⟩
  · refine ⟨hu, hmem, fun hpurpose => hu ?_⟩
    -- both would run on the goroutine of the token
    have hut := honce.home u b hmem τ hτ
    have htt := honce.home t a hamem τ (by rw [ha]; exact hpurpose)
    rw [hut, htt]
  · rw [hsame] at houtput
    have hlength := congrArg List.length houtput
    simp at hlength

theorem Once.run (hw : s.Wf) (honce : Once answered s) (hthread : s.threads t = a :: k)
    (h : Ran json s t k a c s₁ acts) : Once answered (s₁.goto t acts) := by
  have hamem := mem_of_head hthread
  have hlength : s.input.length ≤ s₁.input.length := h.input_prefix.length_le
  rcases h.output with hsame | ⟨f, purpose, ha, -, -, -, houtput⟩
  · have hanswers : ∀ τ, s₁.answers τ = s.answers τ := answers_of_output hsame
    -- an answer that is begun in this step is for a frame that was not handled before
    have hfresh : s.answers (.frame s.input.length) = [] := by
      by_contra hne
      exact absurd (honce.sent _ hne) (lt_irrefl _)
    refine ⟨fun u b hb τ hτ => ?_, fun u b hb τ hτ => ?_, fun τ => ?_, fun u b hb τ hτ => ?_,
      fun τ hne => ?_⟩
    · rcases h.token_mem hw hthread hb hτ with ⟨-, hmem⟩ | ⟨rfl, -, ⟨ha, -⟩ | ⟨hu, rfl, -⟩⟩
      · exact honce.home u b hmem τ hτ
      · exact honce.home u a hamem τ ha
      · exact hu
    · rw [answers_goto, hanswers]
      rcases h.token_mem hw hthread hb hτ with ⟨-, hmem⟩ | ⟨rfl, -, ⟨ha, -⟩ | ⟨-, rfl, -⟩⟩
      · exact honce.unsent u b hmem τ hτ
      · exact honce.unsent u a hamem τ ha
      · exact hfresh
    · rw [answers_goto, hanswers]
      exact honce.once τ
    · rcases h.token_mem hw hthread hb hτ with ⟨-, hmem⟩ | ⟨rfl, -, ⟨ha, -⟩ | ⟨-, rfl, hn⟩⟩
      · exact (honce.pending u b hmem τ hτ).mono hlength
      · exact (honce.pending u a hamem τ ha).mono hlength
      · show s.input.length < s₁.input.length
        omega
    · rw [answers_goto, hanswers] at hne
      exact (honce.sent τ hne).mono hlength
  · have hanswers : ∀ τ, s₁.answers τ =
        s.answers τ ++ if purpose.token = some τ then [(f, purpose)] else [] := by
      intro τ
      unfold answers
      rw [houtput, List.filter_append, List.filter_singleton]
      by_cases hpurpose : purpose.token = some τ <;> simp [hpurpose]
    have hbefore : ∀ τ, purpose.token = some τ → s.answers τ = [] := by
      intro τ hpurpose
      exact honce.unsent t a hamem τ (by rw [ha]; exact hpurpose)
    refine ⟨fun u b hb τ hτ => ?_, fun u b hb τ hτ => ?_, fun τ => ?_, fun u b hb τ hτ => ?_,
      fun τ hne => ?_⟩
    · obtain ⟨-, hmem, -⟩ := honce.emitted hw hthread h ha houtput hb hτ
      exact honce.home u b hmem τ hτ
    · obtain ⟨-, hmem, hne⟩ := honce.emitted hw hthread h ha houtput hb hτ
      rw [answers_goto, hanswers, if_neg hne, List.append_nil]
      exact honce.unsent u b hmem τ hτ
    · rw [answers_goto, hanswers]
      by_cases hpurpose : purpose.token = some τ
      · rw [hbefore τ hpurpose, if_pos hpurpose]
        exact le_rfl
      · rw [if_neg hpurpose, List.append_nil]
        exact honce.once τ
    · obtain ⟨-, hmem, -⟩ := honce.emitted hw hthread h ha houtput hb hτ
      exact (honce.pending u b hmem τ hτ).mono hlength
    · rw [answers_goto, hanswers] at hne
      by_cases hpurpose : purpose.token = some τ
      · exact (honce.pending t a hamem τ (by rw [ha]; exact hpurpose)).mono hlength
      · rw [if_neg hpurpose, List.append_nil] at hne
        exact (honce.sent τ hne).mono hlength

theorem Once.call (honce : Once answered s) (h : Called json s op s₁ acts)
    (hop : ∀ r, op ≠ .accept r ∧ ∀ message, op ≠ .reject r message) :
    Once answered (s₁.goto t acts) := by
  obtain ⟨-, houtput, hinput⟩ := h.streams_eq
  have hanswers : ∀ τ, s₁.answers τ = s.answers τ := answers_of_output houtput
  have hmem : ∀ u, ∀ b ∈ (s₁.goto t acts).threads u, ∀ τ, b.token = some τ → b ∈ s.threads u := by
    intro u b hb τ hτ
    rcases h.token_mem hb hτ with hmem | ⟨-, r, -, hacc | ⟨message, hrej⟩⟩
    · exact hmem
    · exact absurd hacc (hop r).1
    · exact absurd hrej ((hop r).2 message)
  refine ⟨fun u b hb τ hτ => honce.home u b (hmem u b hb τ hτ) τ hτ, fun u b hb τ hτ => ?_,
    fun τ => ?_, fun u b hb τ hτ => ?_, fun τ hne => ?_⟩
  · rw [answers_goto, hanswers]
    exact honce.unsent u b (hmem u b hb τ hτ) τ hτ
  · rw [answers_goto, hanswers]
    exact honce.once τ
  · exact (honce.pending u b (hmem u b hb τ hτ) τ hτ).mono (by rw [goto_input, hinput])
  · rw [answers_goto, hanswers] at hne
    exact (honce.sent τ hne).mono (by rw [goto_input, hinput])

/-- The handler of a stream calls `Accept` or `Reject` for the first time. -/
theorem Once.answer (honce : Once answered s) (h : Called json s op s₁ acts)
    (hop : op = .accept r ∨ ∃ message, op = .reject r message) (hnot : ¬ answered r) :
    Once (fun q => answered q ∨ q = r) (s₁.goto (.user r) acts) := by
  obtain ⟨-, houtput, hinput⟩ := h.streams_eq
  have hanswers : ∀ τ, s₁.answers τ = s.answers τ := answers_of_output houtput
  have hnone : s.answers (.stream r) = [] := by
    by_contra hne
    exact hnot (honce.sent _ hne)
  have hbegun : ∀ τ, s.Begun answered τ →
      (s₁.goto (.user r) acts).Begun (fun q => answered q ∨ q = r) τ := by
    intro τ hτ
    cases τ with
    | stream q => exact Or.inl hτ
    | frame n =>
      show n < s₁.input.length
      rw [hinput]
      exact hτ
  have hmem : ∀ u, ∀ b ∈ (s₁.goto (.user r) acts).threads u, ∀ τ, b.token = some τ →
      b ∈ s.threads u ∨ u = .user r ∧ τ = .stream r := by
    intro u b hb τ hτ
    rcases h.token_mem hb hτ with hmem | ⟨hu, q, rfl, hq⟩
    · exact Or.inl hmem
    · refine Or.inr ⟨hu, ?_⟩
      rcases hop with rfl | ⟨message, rfl⟩ <;> rcases hq with hq | ⟨message', hq⟩ <;> cases hq <;> rfl
  refine ⟨fun u b hb τ hτ => ?_, fun u b hb τ hτ => ?_, fun τ => ?_, fun u b hb τ hτ => ?_,
    fun τ hne => ?_⟩
  · rcases hmem u b hb τ hτ with hold | ⟨rfl, rfl⟩
    · exact honce.home u b hold τ hτ
    · rfl
  · rw [answers_goto, hanswers]
    rcases hmem u b hb τ hτ with hold | ⟨rfl, rfl⟩
    · exact honce.unsent u b hold τ hτ
    · exact hnone
  · rw [answers_goto, hanswers]
    exact honce.once τ
  · rcases hmem u b hb τ hτ with hold | ⟨rfl, rfl⟩
    · exact hbegun τ (honce.pending u b hold τ hτ)
    · exact Or.inr rfl
  · rw [answers_goto, hanswers] at hne
    exact hbegun τ (honce.sent τ hne)

/-! ## Streams that the peer has opened -/

structure Handed (json : Codec) (s : Session) : Prop where
  lt : ∀ r, s.Incoming r → r < s.count
  started : ∀ r, s.Incoming r → s.started = true
  /-- The session does not open the stream itself. -/
  noOpens : ∀ r, s.Incoming r → ∀ t, ∀ a ∈ s.threads t, a.opens r = false
  /-- The application has the stream from the dispatch loop. -/
  owned : ∀ r, s.Incoming r → (s.obj r).owned = true → r ∈ s.handled
  /-- Its request is valid, and names its id. -/
  valid : ∀ frame r, (frame, some r) ∈ s.input → frame.type = frameOpen →
    ∃ request, decodeOpen json frame = .ok request ∧ (s.obj r).id = request.requestID
  /-- The dispatch loop hands out the streams of the peer. -/
  source : ∀ r, r ∈ s.incoming.buf ∨ r ∈ s.handled ∨ (∃ t, ∃ a ∈ s.threads t, a.hands r = true) →
    s.Incoming r

theorem new_handed (json : Codec) (bufferSize : Nat) : (Session.new bufferSize).Handed json where
  lt r h := by simp [Incoming, Session.new] at h
  started r h := by simp [Incoming, Session.new] at h
  noOpens r h := by simp [Incoming, Session.new] at h
  owned r h := by simp [Incoming, Session.new] at h
  valid frame r h := by simp [Session.new] at h
  source r h := by simp [Session.new, Chan.make] at h

/-- A stream that the peer opens in this step is a new one, and its request is valid. -/
theorem Ran.incoming_cases (h : Ran json s t k a c s₁ acts) {frame : Frame}
    (hmem : (frame, some r) ∈ s₁.input) (htype : frame.type = frameOpen) :
    (frame, some r) ∈ s.input ∨ a = .handle frame ∧ r = s.count ∧ s₁.count = s.count + 1 ∧
      ∃ request, decodeOpen json frame = .ok request ∧ (s₁.obj r).id = request.requestID := by
  cases h with
  | @handle frame' s₁ acts h =>
    have hcase : ∀ {input : List (Frame × Option Ref)} {tag : Option Ref},
        (frame, some r) ∈ input ++ [(frame', tag)] →
        (frame, some r) ∈ input ∨ frame = frame' ∧ tag = some r := by
      intro input tag hmem
      rcases List.mem_append.1 hmem with hold | hnew
      · exact Or.inl hold
      · simp only [List.mem_singleton, Prod.mk.injEq] at hnew
        exact Or.inr ⟨hnew.1, hnew.2.symm⟩
    cases h with
    | @openNew request _ hdecode _ =>
      rcases hcase hmem with hold | ⟨rfl, hr⟩
      · exact Or.inl hold
      · obtain rfl := Option.some.inj hr
        refine Or.inr ⟨rfl, rfl, rfl, request, hdecode, ?_⟩
        simp [note, register, alloc, newStream]
    | openInvalid _ _ | openClosed _ _ _ | ackInvalid _ | unknown _ _ | unknownData _ _
    | unexpectedControl _ _ _ _ | control _ _ _ _ =>
      rcases hcase hmem with hold | ⟨-, hr⟩
      · exact Or.inl hold
      · cases hr
    | ack htype' _ | data htype' _ | close htype' _ | error htype' _ =>
      rcases hcase hmem with hold | ⟨rfl, -⟩
      · exact Or.inl hold
      · rw [htype] at htype'
        exact absurd htype' (by decide)
  | _ => exact Or.inl hmem

theorem Ran.handled_mono (h : Ran json s t k a c s₁ acts) {q : Ref} (hq : q ∈ s.handled) :
    q ∈ s₁.handled := by
  cases h with
  | handle h => cases h <;> exact hq
  | dispatchHandler _ => exact List.mem_append_left _ hq
  | _ => exact hq

/-- How the application gets a stream. -/
theorem Ran.owned_cases (h : Ran json s t k a c s₁ acts) (hr : (s₁.obj r).owned = true) :
    (s.obj r).owned = true ∨ a = .openSelect r ∨ r ∈ s₁.handled := by
  have htouched := h.touched r
  generalize hy : s₁.obj r = y at htouched hr
  cases htouched with
  | accepted => exact Or.inr (Or.inl rfl)
  | handed hbuf =>
    cases h with
    | dispatchHandler hbuf' =>
      rw [hbuf] at hbuf'
      cases hbuf'
      exact Or.inr (Or.inr (List.mem_append_right _ (List.mem_singleton.2 rfl)))
    | moves h => cases h
    | dispatchDrop _ _ => exact Or.inl (congrArg Stream.owned hy)
  | new _ => cases hr
  | _ => exact Or.inl hr

/-- A stream that is to be handed out was so before, or the peer has just opened it. -/
theorem Ran.hands_mem (hthread : s.threads t = a :: k) (h : Ran json s t k a c s₁ acts) {b : Act}
    (hb : b ∈ acts) (hr : b.hands r = true) : b ∈ k ∨ s₁.Incoming r := by
  rcases h.next hthread b hb with hmem | hnext
  · exact Or.inl hmem
  · right
    cases hnext with
    | steady h => cases b <;> first | cases hr | cases h
    | dispatch h =>
      simp only [Act.hands, decide_eq_true_eq] at hr
      exact hr ▸ h
    | _ => cases hr

theorem Ran.handled_mem (h : Ran json s t k a c s₁ acts) (hr : r ∈ s₁.handled) :
    r ∈ s.handled ∨ r ∈ s.incoming.buf := by
  cases h with
  | handle h => cases h <;> exact Or.inl hr
  | dispatchHandler hbuf =>
    rcases List.mem_append.1 hr with hr | hr
    · exact Or.inl hr
    · rw [List.mem_singleton] at hr
      exact Or.inr (by rw [hbuf, hr]; exact List.mem_cons_self ..)
  | _ => exact Or.inl hr

theorem Handed.run (hw : s.Wf) (hh : s.Handed json) (hthread : s.threads t = a :: k)
    (h : Ran json s t k a c s₁ acts) : (s₁.goto t acts).Handed json := by
  have hamem := mem_of_head hthread
  have hcases : ∀ q, s₁.Incoming q → s.Incoming q ∨ q = s.count ∧ s₁.count = s.count + 1 ∧
      ∃ frame, a = .handle frame := by
    rintro q ⟨frame, hmem, htype⟩
    rcases h.incoming_cases hmem htype with hold | ⟨ha, hq, hcount, -⟩
    · exact Or.inl ⟨frame, hold, htype⟩
    · exact Or.inr ⟨hq, hcount, frame, ha⟩
  have hkeeps : ∀ q, s.Incoming q → s₁.Incoming q := by
    rintro q ⟨frame, hmem, htype⟩
    exact ⟨frame, h.input_prefix.subset hmem, htype⟩
  refine ⟨fun q hq => ?_, fun q hq => ?_, fun q hq u b hb => ?_, fun q hq howned => ?_,
    fun frame q hmem htype => ?_, fun q hq => ?_⟩
  · rcases hcases q hq with hold | ⟨hcount, hnew, -⟩
    · exact Nat.lt_of_lt_of_le (hh.lt q hold) h.count_le
    · show q < s₁.count
      lia
  · show s₁.started = true
    rw [h.started_eq]
    rcases hcases q hq with hold | ⟨-, -, frame, ha⟩
    · exact hh.started q hold
    · -- the read loop runs
      by_contra hnot
      have ht : t = .readLoop := of_decide_eq_true (hw.runsOn t (.handle frame) (ha ▸ hamem))
      rw [ht, (hw.idle (by simpa using hnot)).1] at hthread
      cases hthread
  · refine Bool.eq_false_of_not_eq_true fun hopens => ?_
    obtain ⟨b', hb', hopens'⟩ := h.opens_mem hthread hb hopens
    rcases hcases q hq with hold | ⟨hcount, -⟩
    · rw [hh.noOpens q hold u b' hb'] at hopens'
      cases hopens'
    · have := hw.refs u b' hb' q (Act.refs_of_opens hopens')
      lia
  · show q ∈ s₁.handled
    rcases h.owned_cases howned with howned | rfl | hmem
    · rcases hcases q hq with hold | ⟨hcount, -⟩
      · exact h.handled_mono (hh.owned q hold howned)
      · have := hw.owned_lt howned
        lia
    · rcases hcases q hq with hold | ⟨-, -, frame, ha⟩
      · have := hh.noOpens q hold t _ hamem
        simp [Act.opens] at this
      · cases ha
    · exact hmem
  · rcases h.incoming_cases hmem htype with hold | ⟨-, -, -, hvalid⟩
    · obtain ⟨request, hdecode, hid⟩ := hh.valid frame q hold htype
      refine ⟨request, hdecode, ?_⟩
      rw [goto_obj, h.id_eq hw hthread (hh.lt q ⟨frame, hold, htype⟩)]
      exact hid
    · exact hvalid
  · show s₁.Incoming q
    rcases hq with hq | hq | ⟨u, b, hb, hq⟩
    · rcases h.incoming hq with hold | hands
      · exact hkeeps q (hh.source q (Or.inl hold))
      · exact hkeeps q (hh.source q (Or.inr (Or.inr ⟨t, a, hamem, hands⟩)))
    · rcases h.handled_mem hq with hold | hold
      · exact hkeeps q (hh.source q (Or.inr (Or.inl hold)))
      · exact hkeeps q (hh.source q (Or.inl hold))
    · rcases h.mem_acts hb with ⟨-, hold⟩ | ⟨rfl, hacts⟩ | ⟨p, -, rfl, rfl⟩
      · exact hkeeps q (hh.source q (Or.inr (Or.inr ⟨u, b, hold, hq⟩)))
      · rcases h.hands_mem hthread hacts hq with hold | hnew
        · have hmem : b ∈ s.threads u := mem_of_tail hthread hold
          exact hkeeps q (hh.source q (Or.inr (Or.inr ⟨u, b, hmem, hq⟩)))
        · exact hnew
      · exact hkeeps q (hh.source q (Or.inr (Or.inr ⟨t, _, hamem, hq⟩)))

theorem Called.started_mono (h : Called json s op s₁ acts) (hs : s.started = true) :
    s₁.started = true := by
  cases h <;> first | rfl | exact hs

theorem Called.handled_eq (h : Called json s op s₁ acts) : s₁.handled = s.handled := by
  cases h <;> rfl

theorem Called.incoming_eq (h : Called json s op s₁ acts) : s₁.incoming = s.incoming := by
  cases h <;> rfl

theorem Handed.call (hw : s.Wf) (hh : s.Handed json) (h : Called json s op s₁ acts) :
    (s₁.goto t acts).Handed json := by
  obtain ⟨-, -, hinput⟩ := h.streams_eq
  have hincoming : ∀ q, s₁.Incoming q → s.Incoming q := by
    rintro q ⟨frame, hmem, htype⟩
    exact ⟨frame, hinput ▸ hmem, htype⟩
  refine ⟨fun q hq => ?_, fun q hq => h.started_mono (hh.started q (hincoming q hq)),
    fun q hq u b hb => ?_, fun q hq howned => ?_, fun frame q hmem htype => ?_, fun q hq => ?_⟩
  · have hlt := hh.lt q (hincoming q hq)
    show q < s₁.count
    rcases h.count_eq with hcount | ⟨request, -, hcount, -⟩ <;> lia
  · refine Bool.eq_false_of_not_eq_true fun hopens => ?_
    rcases h.opens_mem hb hopens with hold | ⟨-, hcount, -⟩
    · rw [hh.noOpens q (hincoming q hq) u b hold] at hopens
      cases hopens
    · have := hh.lt q (hincoming q hq)
      lia
  · show q ∈ s₁.handled
    rw [h.handled_eq]
    have howned' : (s₁.obj q).owned = true := howned
    rw [(h.fields hw q).1] at howned'
    exact hh.owned q (hincoming q hq) howned'
  · have hmem' : (frame, some q) ∈ s₁.input := hmem
    rw [hinput] at hmem'
    obtain ⟨request, hdecode, hid⟩ := hh.valid frame q hmem' htype
    refine ⟨request, hdecode, ?_⟩
    rw [goto_obj, (h.changed q).id_eq (hh.lt q ⟨frame, hmem', htype⟩)]
    exact hid
  · have hsource : s.Incoming q := by
      apply hh.source
      rcases hq with hq | hq | ⟨u, b, hb, hq⟩
      · have hq : q ∈ s₁.incoming.buf := hq
        exact Or.inl (h.incoming_eq ▸ hq)
      · have hq : q ∈ s₁.handled := hq
        exact Or.inr (Or.inl (h.handled_eq ▸ hq))
      · exact Or.inr (Or.inr ⟨u, b, h.hands_mem hb hq, hq⟩)
    obtain ⟨frame, hmem, htype⟩ := hsource
    exact ⟨frame, by rwa [goto_input, hinput], htype⟩

/-! ## Data after the answer -/

/-- `Accept` has written the answer for stream `r`. -/
def Accepted (s : Session) (r : Ref) : Prop := ∃ e ∈ s.output, e.2 = .accepting r

/-- Data is written on the peer's streams only after their acceptance. -/
structure DataLast (s : Session) : Prop where
  pending : ∀ r, s.Incoming r → ∀ t, ∀ a ∈ s.threads t, a.writes r = true → s.Accepted r
  sent : ∀ r, s.Incoming r → ∀ pre post f rest inCopy,
    s.output = pre ++ (f, .chunk r rest inCopy) :: post → ∃ e ∈ pre, e.2 = .accepting r

theorem new_dataLast (bufferSize : Nat) : (Session.new bufferSize).DataLast where
  pending r h := by simp [Incoming, Session.new] at h
  sent r h := by simp [Incoming, Session.new] at h

theorem DataLast.run (hw : s.Wf) (hd : s.DataLast) (hthread : s.threads t = a :: k)
    (h : Ran json s t k a c s₁ acts) : (s₁.goto t acts).DataLast := by
  have hamem := mem_of_head hthread
  have hcases : ∀ q, s₁.Incoming q → s.Incoming q ∨ q = s.count := by
    rintro q ⟨frame, hmem, htype⟩
    rcases h.incoming_cases hmem htype with hold | ⟨-, hq, -⟩
    · exact Or.inl ⟨frame, hold, htype⟩
    · exact Or.inr hq
  have hkeeps : ∀ q, s.Accepted q → s₁.Accepted q := by
    rintro q ⟨e, he, hpurpose⟩
    refine ⟨e, ?_, hpurpose⟩
    rcases h.output with heq | ⟨f, purpose, -, -, -, -, heq⟩
    · rwa [heq]
    · rw [heq]
      exact List.mem_append_left _ he
  -- a section that writes on a stream of this session was there, or follows another such section
  have hwrites : ∀ q, s.Incoming q → ∀ u, ∀ b ∈ (s₁.goto t acts).threads u, b.writes q = true →
      s.Accepted q := by
    intro q hq u b hb hwrites
    rcases h.onWriter_mem hthread hb (Act.onWriter_of_writes hwrites) with hmem | ⟨rfl, -, ha⟩
    · exact hd.pending q hq u b hmem hwrites
    · exact hd.pending q hq u a hamem (ha hwrites)
  constructor
  · intro q hq u b hb hb'
    rcases hcases q hq with hold | hcount
    · exact hkeeps q (hwrites q hold u b hb hb')
    · rcases h.onWriter_mem hthread hb (Act.onWriter_of_writes hb') with hmem | ⟨rfl, -, ha⟩
      · have := hw.refs u b hmem q (Act.refs_of_onWriter (Act.onWriter_of_writes hb'))
        lia
      · have := hw.refs u a hamem q (Act.refs_of_onWriter (Act.onWriter_of_writes (ha hb')))
        lia
  · intro q hq pre post f rest inCopy hsplit
    rw [goto_output] at hsplit
    have hlt : q < s.count := by
      rcases h.mem_output (e := (f, .chunk q rest inCopy)) (by rw [hsplit]; simp) with hmem | ha
      · exact hw.output _ hmem q (by simp [Purpose.refs])
      · exact hw.refs t a hamem q (by rw [ha]; simp [Act.refs, Purpose.refs])
    have hold : s.Incoming q := (hcases q hq).resolve_right (by lia)
    rcases h.output with heq | ⟨f', purpose, ha, -, -, -, heq⟩
    · rw [heq] at hsplit
      exact hd.sent q hold pre post f rest inCopy hsplit
    · rw [heq] at hsplit
      rcases split_concat hsplit with ⟨-, hpre, hlast⟩ | ⟨post', -, hpost⟩
      · cases hlast
        rw [hpre]
        exact hd.pending q hold t a hamem (by simp [ha, Act.writes])
      · exact hd.sent q hold pre post' f rest inCopy hpost

theorem DataLast.call (hd : s.DataLast) (h : Called json s op s₁ acts)
    (hop : ∀ r, s.Incoming r → (∀ p, op ≠ .write r p) ∧ (op = .relay r → s.Accepted r)) :
    (s₁.goto t acts).DataLast := by
  obtain ⟨-, houtput, hinput⟩ := h.streams_eq
  have hincoming : ∀ q, s₁.Incoming q → s.Incoming q := by
    rintro q ⟨frame, hmem, htype⟩
    exact ⟨frame, hinput ▸ hmem, htype⟩
  constructor
  · intro q hq u b hb hwrites
    have haccepted : s.Accepted q := by
      rcases h.mem_threads hb with hmem | ⟨-, hacts⟩ | ⟨-, rfl⟩ | ⟨-, rfl⟩
      · exact hd.pending q (hincoming q hq) u b hmem hwrites
      · obtain ⟨hwrite, hrelay⟩ := hop q (hincoming q hq)
        clear hb
        cases h <;> simp only [List.mem_cons, List.not_mem_nil, or_false] at hacts
        case write r p howned =>
          subst hacts
          simp only [Act.writes, decide_eq_true_eq] at hwrites
          subst hwrites
          exact absurd rfl (hwrite p)
        case relay r howned =>
          subst hacts
          simp only [Act.writes, decide_eq_true_eq] at hwrites
          subst hwrites
          exact hrelay rfl
        case reject => rcases hacts with rfl | rfl <;> cases hwrites
        case close => rcases hacts with rfl | rfl <;> cases hwrites
        all_goals (subst hacts; cases hwrites)
      · cases hwrites
      · cases hwrites
    obtain ⟨e, he, hpurpose⟩ := haccepted
    exact ⟨e, by rwa [goto_output, houtput], hpurpose⟩
  · intro q hq pre post f rest inCopy hsplit
    rw [goto_output, houtput] at hsplit
    exact hd.sent q (hincoming q hq) pre post f rest inCopy hsplit

/-! ## What acknowledgements and errors answer -/

/-- Acknowledgements and data are written for streams, errors for frames that were handed to none. -/
structure Suits (s : Session) (f : Frame) (purpose : Purpose) : Prop where
  ack : f.type = frameOpenAck →
    ∃ r, (purpose = .accepting r ∨ purpose = .rejecting r) ∧ f.id = (s.obj r).id
  data : f.type = frameData → ∃ r rest inCopy, purpose = .chunk r rest inCopy ∧ f.id = (s.obj r).id
  error : f.type = frameError → ∃ n frame, purpose = .reply n ∧ s.input[n]? = some (frame, none) ∧
    frame.type = frameOpen ∧ f.id = frame.id
  answer : ∀ r, purpose.token = some (.stream r) → f.type = frameOpenAck

structure Suited (s : Session) : Prop where
  pending : ∀ t, ∀ a ∈ s.threads t, ∀ f purpose, a.writesFrame f purpose → s.Suits f purpose
  sent : ∀ e ∈ s.output, s.Suits e.1 e.2

variable {f : Frame} {purpose : Purpose}

theorem new_suited (bufferSize : Nat) : (Session.new bufferSize).Suited where
  pending := by simp [Session.new]
  sent := by simp [Session.new]

theorem Suits.mono (h : s.Suits f purpose) (hinput : s.input <+: s₁.input)
    (hids : ∀ r ∈ purpose.refs, (s₁.obj r).id = (s.obj r).id) : s₁.Suits f purpose := by
  refine ⟨fun htype => ?_, fun htype => ?_, fun htype => ?_, h.answer⟩
  · obtain ⟨r, hpurpose, hid⟩ := h.ack htype
    have hr : r ∈ purpose.refs := by rcases hpurpose with rfl | rfl <;> simp [Purpose.refs]
    exact ⟨r, hpurpose, hid.trans (hids r hr).symm⟩
  · obtain ⟨r, rest, inCopy, rfl, hid⟩ := h.data htype
    exact ⟨r, rest, inCopy, rfl, hid.trans (hids r (by simp [Purpose.refs])).symm⟩
  · obtain ⟨n, frame, hpurpose, hn, hopen, hid⟩ := h.error htype
    obtain ⟨rest, hrest⟩ := hinput
    refine ⟨n, frame, hpurpose, ?_, hopen, hid⟩
    rw [← hrest, List.getElem?_append_left (List.getElem?_eq_some_iff.1 hn).1]
    exact hn

theorem Suits.goto (h : s.Suits f purpose) : (s.goto t acts).Suits f purpose :=
  h.mono List.prefix_rfl fun _ _ => rfl

theorem suits_of_type (type : FrameType) (hf : f.type = type)
    (h : type ≠ frameOpenAck ∧ type ≠ frameData ∧ type ≠ frameError)
    (hpurpose : ∀ r, purpose.token ≠ some (.stream r)) : s.Suits f purpose where
  ack htype := absurd (hf.symm.trans htype) h.1
  data htype := absurd (hf.symm.trans htype) h.2.1
  error htype := absurd (hf.symm.trans htype) h.2.2
  answer r hr := absurd hr (hpurpose r)

theorem suits_ack {ack : Ack} (hpurpose : purpose = .accepting r ∨ purpose = .rejecting r) :
    s.Suits (ackFrame json (s.obj r).id ack) purpose where
  ack _ := ⟨r, hpurpose, rfl⟩
  data htype := by cases htype
  error htype := by cases htype
  answer _ _ := rfl

theorem Composed.suits (h : Composed json s s₁ a f purpose) : s₁.Suits f purpose := by
  cases h with
  | «opening» => exact suits_of_type frameOpen rfl (by decide) (by rintro r ⟨⟩)
  | closing _ _ | unknown _ _ => exact suits_of_type frameClose rfl (by decide) (by rintro r ⟨⟩)
  | accepting heq =>
    subst heq
    exact suits_ack (Or.inl rfl)
  | @chunk r p inCopy heq =>
    subst heq
    exact ⟨by rintro ⟨⟩, fun _ => ⟨r, _, inCopy, rfl, rfl⟩, by rintro ⟨⟩, by rintro r ⟨⟩⟩
  | @invalid frame message htype hinput =>
    refine ⟨by rintro ⟨⟩, by rintro ⟨⟩, fun _ => ?_, by rintro r ⟨⟩⟩
    exact ⟨s.input.length, frame, rfl, by rw [hinput]; simp, htype, rfl⟩

theorem Suited.run (hw : s.Wf) (hs : s.Suited) (hthread : s.threads t = a :: k)
    (h : Ran json s t k a c s₁ acts) : (s₁.goto t acts).Suited := by
  have hamem := mem_of_head hthread
  have hkeep : ∀ u b, b ∈ s.threads u → ∀ f purpose, b.writesFrame f purpose →
      s₁.Suits f purpose := by
    intro u b hb f purpose hf
    refine (hs.pending u b hb f purpose hf).mono h.input_prefix fun r hr => ?_
    refine h.id_eq hw hthread (hw.refs u b hb r ?_)
    rcases hf with rfl | rfl <;> exact hr
  constructor
  · intro u b hb f purpose hf
    apply Suits.goto
    rcases h.writes_mem hthread hb hf with ⟨b', hb', hf'⟩ | ⟨-, hcomposed⟩
    · exact hkeep u b' hb' f purpose hf'
    · exact hcomposed.suits
  · intro e he
    apply Suits.goto
    rcases h.mem_output he with hold | ha
    · refine (hs.sent e hold).mono h.input_prefix fun r hr => ?_
      exact h.id_eq hw hthread (hw.output e hold r hr)
    · exact hkeep t a hamem e.1 e.2 (Or.inr ha)

theorem Suited.call (hw : s.Wf) (hs : s.Suited) (h : Called json s op s₁ acts) :
    (s₁.goto t acts).Suited := by
  obtain ⟨-, houtput, hinput⟩ := h.streams_eq
  have hprefix : s.input <+: s₁.input := hinput ▸ List.prefix_rfl
  have hid : ∀ {q}, q < s.count → (s₁.obj q).id = (s.obj q).id := fun hq => (h.changed _).id_eq hq
  constructor
  · intro u b hb f purpose hf
    apply Suits.goto
    rcases h.writes_mem hb hf with hmem | ⟨rfl, htype⟩ | ⟨r, ack, rfl, howned, rfl⟩
    · refine (hs.pending u b hmem f purpose hf).mono hprefix fun r hr => hid (hw.refs u b hmem r ?_)
      rcases hf with rfl | rfl <;> exact hr
    · refine suits_of_type f.type rfl ⟨?_, ?_, ?_⟩ (by rintro r ⟨⟩)
      all_goals
        intro heq
        rw [heq] at htype
        exact htype (by decide)
    · rw [← hid (hw.owned_lt howned)]
      exact suits_ack (Or.inr rfl)
  · intro e he
    rw [goto_output, houtput] at he
    apply Suits.goto
    exact (hs.sent e he).mono hprefix fun r hr => hid (hw.output e he r hr)

end Session

end LnProxy
