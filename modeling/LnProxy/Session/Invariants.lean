import LnProxy.Lib.Transition
import LnProxy.Session.Cases

set_option autoImplicit false

/-! # Well-formed session states

The facts every later argument leans on and that hold in every reachable state of every session,
whatever its peer and its application do: pointers are valid, each section runs on the goroutine it
belongs to, a frame or a call is worked off before the next one begins (`Act.follows`), and the
flags of a stream agree with each other (`Stream.Ok`). -/

namespace LnProxy

open Protocol

/-! ## Where sections run and what they mention -/

def Purpose.refs : Purpose → List Ref
  | .opening r | .accepting r | .rejecting r | .chunk r _ _ | .closing r => [r]
  | .reply _ | .control => []

/-- The streams a section mentions. -/
def Act.refs : Act → List Ref
  | .openInsert r _ | .openSelect r | .sendAck r _ | .dispatch r | .overflow r | .removeStream r
  | .accept r | .read r _ | .readSelect r _ | .write r _ _ | .writeLoop r _ _ | .closeWrite r
  | .deliver r _ | .remoteClose r | .closeReads r | .forceClose r _ | .closeDone r
  | .copyLoop r => [r]
  | .forceCloseAll rs _ => rs
  | .writeFrame _ purpose | .emit _ purpose => purpose.refs
  | .readFrame | .handle _ | .readReturn | .dispatchLoop | .shutdown _ | .closeConn => []

def Purpose.runsOn : Purpose → Tid → Bool
  | .reply _, t => decide (t = .readLoop)
  | _, t => t.calls

/-- The goroutine a section belongs to. -/
def Act.runsOn : Act → Tid → Bool
  | .readFrame, t | .handle _, t | .sendAck _ _, t | .readReturn, t | .dispatch _, t
  | .deliver _ _, t | .remoteClose _, t | .closeReads _, t => decide (t = .readLoop)
  | .overflow r, t => decide (t = .overflow r)
  | .dispatchLoop, t => decide (t = .dispatchLoop)
  | .writeFrame _ purpose, t | .emit _ purpose, t => purpose.runsOn t
  | .removeStream _, _ | .forceClose _ _, _ | .closeDone _, _ | .shutdown _, _
  | .forceCloseAll _ _, _ => true
  | _, t => t.calls

/-- The sections that can stand behind another one: the rest of a loop, of a shutdown or of an error
    path. All other sections are the next thing their goroutine does. -/
def Act.follows : Act → Bool
  | .readFrame | .readReturn | .removeStream _ | .forceClose _ _ | .forceCloseAll _ _
  | .closeConn | .closeWrite _ | .closeDone _ => true
  | _ => false

/-- The sections of `Open` on stream `r`. -/
def Act.opens (r : Ref) : Act → Bool
  | .openInsert q _ | .openSelect q | .writeFrame _ (.opening q) | .emit _ (.opening q) =>
    decide (q = r)
  | _ => false

/-- The sections that hand an incoming stream `r` to the application. -/
def Act.hands (r : Ref) : Act → Bool
  | .dispatch q | .overflow q => decide (q = r)
  | _ => false

/-- The sections of `Read` run on the stream's reader, those of `Write`, `CloseWrite` and `Relay` on
    its writer. -/
def Act.onOwner (t : Tid) : Act → Bool
  | .read r _ | .readSelect r _ => decide (t = .reader r)
  | .write r _ _ | .writeLoop r _ _ | .closeWrite r | .copyLoop r
  | .writeFrame _ (.chunk r _ _) | .emit _ (.chunk r _ _) | .writeFrame _ (.closing r)
  | .emit _ (.closing r) => decide (t = .writer r)
  | _ => true

/-- The sections that neither open, hand over or remove a stream nor wait for it or close a part of
    it. -/
def Act.bare : Act → Bool
  | .openInsert _ _ | .openSelect _ | .writeFrame _ (.opening _) | .emit _ (.opening _)
  | .dispatch _ | .overflow _ | .removeStream _ | .readSelect _ _ | .deliver _ _ | .remoteClose _
  | .closeReads _ | .closeDone _ => false
  | _ => true

theorem Act.opens_of_bare {a : Act} {r : Ref} (h : a.bare = true) : a.opens r = false := by
  cases a with
  | openInsert | openSelect => cases h
  | writeFrame frame purpose | emit frame purpose =>
    cases purpose with
    | opening => cases h
    | _ => rfl
  | _ => rfl

theorem Act.hands_of_bare {a : Act} {r : Ref} (h : a.bare = true) : a.hands r = false := by
  cases a with
  | dispatch | overflow => cases h
  | _ => rfl

theorem Act.refs_of_hands {a : Act} {r : Ref} (h : a.hands r = true) : r ∈ a.refs := by
  cases a with
  | dispatch q | overflow q =>
    simp only [Act.hands, decide_eq_true_eq] at h
    simp [Act.refs, h]
  | _ => cases h

theorem Act.refs_of_opens {a : Act} {r : Ref} (h : a.opens r = true) : r ∈ a.refs := by
  cases a with
  | openInsert q _ | openSelect q =>
    simp only [Act.opens, decide_eq_true_eq] at h
    simp [Act.refs, h]
  | writeFrame frame purpose | emit frame purpose =>
    cases purpose with
    | opening q =>
      simp only [Act.opens, decide_eq_true_eq] at h
      simp [Act.refs, Purpose.refs, h]
    | _ => cases h
  | _ => cases h

theorem Act.follows_of_opens {a : Act} {r : Ref} (h : a.opens r = true) : a.follows = false := by
  cases a <;> first | rfl | cases h

/-! ## Streams -/

/-- The flags of a stream agree: `closed` says that `forceClose` has begun, and then both errors and
    `remoteEOF` are set; `reads` is closed only after `remoteEOF`; queued chunks are not empty. -/
structure Stream.Ok (x : Stream) : Prop where
  once : x.closed = true ↔ x.closeOnce ≠ .idle
  readErr : x.closed = true ↔ x.readErr ≠ none
  writeErr : x.closed = true ↔ x.writeErr ≠ none
  closedEOF : x.closed = true → x.remoteEOF = true
  readsEOF : x.reads.closed = true → x.remoteEOF = true
  chunks : ∀ data ∈ x.reads.buf, data ≠ []
  done : x.done = true → x.closed = true

theorem newStream_ok (bufferSize : Nat) (id : UInt64) : (newStream bufferSize id).Ok where
  once := by simp [newStream]
  readErr := by simp [newStream]
  writeErr := by simp [newStream]
  closedEOF := by simp [newStream]
  readsEOF := by simp [newStream]
  chunks := by simp [newStream]
  done := by simp [newStream]

theorem Stream.Ok.reads_open {x : Stream} (h : x.Ok) (heof : x.remoteEOF = false) :
    x.reads.closed = false := by
  by_contra hclosed
  rw [h.readsEOF (Bool.eq_true_of_not_eq_false hclosed)] at heof
  cases heof

theorem Stream.Ok.forceClose {x : Stream} (h : x.Ok) (err : Err) : (x.forceClose err).Ok where
  once := by simp [Stream.forceClose]
  readErr := by simp [Stream.forceClose]
  writeErr := by simp [Stream.forceClose]
  closedEOF := by simp [Stream.forceClose]
  readsEOF := by simp [Stream.forceClose]
  chunks := by
    have := h.chunks
    simp only [Stream.forceClose]
    split <;> simpa using this
  done := by simp [Stream.forceClose]

/-- The ways one step changes a stream. -/
inductive Stream.Evolves (x : Stream) : Stream → Prop where
  | same : Evolves x x
  | ack {ack : Chan Ack} {exit : String} {owned : Bool} (h : x.owned = true → owned = true) :
      Evolves x { x with ack := ack, remoteExit := exit, owned := owned }
  | born {n : Nat} : Evolves x { x with born := n }
  | forceClose {err : Err} (h : x.closeOnce = .idle) : Evolves x (x.forceClose err)
  | closeDone (h : x.closed = true) : Evolves x { x with done := true, closeOnce := .finished }
  | copyOut {n : Nat} : Evolves x (x.copyOut n)
  | chunk {data : Bytes} {ds : List Bytes} (h : x.reads.buf = data :: ds) :
      Evolves x { x with reads := x.reads.pop, readBuf := data }
  | gotEOF (hclosed : x.reads.closed = true) (herr : x.readErr = none) :
      Evolves x { x with gotEOF := true }
  | localEOF : Evolves x { x with localEOF := true }
  | push {data : Bytes} (hdata : data ≠ []) (hfull : x.reads.full = false) :
      Evolves x { x with reads := x.reads.push data }
  | remoteEOF : Evolves x { x with remoteEOF := true }
  | shut (h : x.remoteEOF = true) : Evolves x { x with reads := x.reads.shut }
  | written {p : Bytes} : Evolves x { x with written := x.written ++ p }
  | sourceErr {err : Err} : Evolves x { x with sourceErr := some err }

theorem Stream.Ok.evolves {x y : Stream} (h : x.Ok) (hxy : x.Evolves y) : y.Ok := by
  cases hxy with
  | forceClose _ => exact h.forceClose _
  | closeDone hclosed =>
    exact ⟨by simp [hclosed], h.readErr, h.writeErr, h.closedEOF, h.readsEOF, h.chunks, fun _ => hclosed⟩
  | chunk hbuf =>
    refine ⟨h.once, h.readErr, h.writeErr, h.closedEOF, h.readsEOF, fun d hd => ?_, h.done⟩
    exact h.chunks d (List.mem_of_mem_tail hd)
  | push hdata hfull =>
    refine ⟨h.once, h.readErr, h.writeErr, h.closedEOF, by simpa using h.readsEOF, ?_,
      h.done⟩
    intro d hd
    rw [Chan.push_buf hfull, List.mem_append, List.mem_singleton] at hd
    rcases hd with hd | rfl
    · exact h.chunks d hd
    · exact hdata
  | remoteEOF => exact ⟨h.once, h.readErr, h.writeErr, fun _ => rfl, fun _ => rfl, h.chunks, h.done⟩
  | shut heof => exact ⟨h.once, h.readErr, h.writeErr, h.closedEOF, fun _ => heof, h.chunks, h.done⟩
  | _ => exact ⟨h.once, h.readErr, h.writeErr, h.closedEOF, h.readsEOF, h.chunks, h.done⟩

/-- What a stream never takes back. -/
structure Stream.Keeps (x y : Stream) : Prop where
  closed : x.closed = true → y.closed = true
  remoteEOF : x.remoteEOF = true → y.remoteEOF = true
  owned : x.owned = true → y.owned = true
  localEOF : x.localEOF = true → y.localEOF = true
  reads : x.reads.closed = true → y.reads.closed = true

theorem Stream.Evolves.keeps {x y : Stream} (h : x.Evolves y) : x.Keeps y := by
  cases h <;> constructor <;> simp_all [Stream.forceClose, Stream.copyOut]
  intro h
  split <;> simp [h]

theorem Stream.Evolves.id_eq {x y : Stream} (h : x.Evolves y) : y.id = x.id := by
  cases h <;> simp [Stream.forceClose, Stream.copyOut]

/-- What was not so after a step was not so before it. -/
theorem false_of_imp {a b : Bool} (h : a = true → b = true) (hb : b = false) : a = false :=
  Bool.eq_false_of_not_eq_true fun ha => by
    rw [h ha] at hb
    cases hb

namespace Session

variable {json : Codec} {s s' s₁ : Session} {t u : Tid} {a : Act} {c : Choice} {k acts : List Act}
  {purpose : Purpose} {op : Op} {r : Ref} {b : Act} {frame : Frame} {P : Ref → Prop}

/-! ## The sections a step leaves behind -/

/-- What is known of a section `b` that goroutine `t` has on its stack because it ran `a`. -/
@[mk_iff]
structure Pushed (s : Session) (t : Tid) (a : Act) (s₁ : Session) (b : Act) : Prop where
  runsOn : a.runsOn t = true → b.runsOn t = true
  refs : ∀ r ∈ b.refs,
    r ∈ a.refs ∨ (∃ i, s.streams i = some r) ∨ s.count = r ∧ s₁.count = s.count + 1
  closeDone : ∀ r, b = .closeDone r → (s₁.obj r).closed = true
  closeReads : ∀ r, b = .closeReads r → b = a ∧ s₁.obj = s.obj ∨
    (s.obj r).remoteEOF = false ∧ (s₁.obj r).remoteEOF = true ∧ (s₁.obj r).reads = (s.obj r).reads
  dispatch : ∀ r, b = .dispatch r → s.count = r ∧ s₁.count = s.count + 1
  deliver : ∀ r data, b = .deliver r data → b = a ∨ ∃ frame, a = .handle frame ∧
    frame.type = frameData ∧ frame.payload = data ∧ s.streams frame.id = some r ∧ s₁.obj = s.obj
  remoteClose : ∀ r, b = .remoteClose r → ∃ frame, a = .handle frame ∧ frame.type = frameClose ∧
    s.streams frame.id = some r ∧ s₁.obj = s.obj
  readSelect : ∀ r n, b = .readSelect r n → (s₁.obj r).readBuf = []
  onOwner : a.onOwner t = true → b.onOwner t = true
  inserts : ∀ r request, b ≠ .openInsert r request
  opens : ∀ r, b.opens r = true → a.opens r = true ∧
    (s₁.streams = s.streams ∧ (∀ request, a ≠ .openInsert r request) ∨
      s₁.streams (s.obj r).id = some r)
  removes : ∀ r, b = .removeStream r →
    (s₁.obj r).closed = true ∨ a.opens r = true ∧ (s₁.obj r).owned = (s.obj r).owned
  hands : ∀ r, b.hands r = true → a.hands r = true ∨
    s.count = r ∧ s₁.count = s.count + 1 ∧ s₁.streams (s₁.obj r).id = some r

/-- The sections that a step pushes; all but the first one follow another section. -/
def Pushes (s : Session) (t : Tid) (a : Act) (s₁ : Session) (new : List Act) : Prop :=
  (∀ b ∈ new.tail, b.follows = true) ∧ ∀ b ∈ new, Pushed s t a s₁ b

theorem pushes_nil : Pushes s t a s₁ [] := ⟨List.forall_mem_nil _, List.forall_mem_nil _⟩

theorem pushes_one (h : Pushed s t a s₁ b) : Pushes s t a s₁ [b] :=
  ⟨List.forall_mem_nil _, List.forall_mem_singleton.2 h⟩

theorem pushes_two {b b' : Act} (hfollows : b'.follows = true) (h : Pushed s t a s₁ b)
    (h' : Pushed s t a s₁ b') : Pushes s t a s₁ [b, b'] :=
  ⟨List.forall_mem_singleton.2 hfollows, List.forall_mem_cons.2 ⟨h, List.forall_mem_singleton.2 h'⟩⟩

theorem onErr_follows (purpose : Purpose) (err : Err) :
    ∀ b ∈ purpose.onErr err, b.follows = true := by
  cases purpose with
  | chunk r rest inCopy => cases inCopy <;> simp [Purpose.onErr, Act.follows]
  | _ => simp [Purpose.onErr, Act.follows]

/-- The sections of which only the goroutine and the streams matter here. -/
theorem pushed_of_bare (hbare : b.bare = true)
    (hruns : a.runsOn t = true → b.runsOn t = true)
    (hrefs : ∀ r ∈ b.refs,
      r ∈ a.refs ∨ (∃ i, s.streams i = some r) ∨ s.count = r ∧ s₁.count = s.count + 1)
    (howner : a.onOwner t = true → b.onOwner t = true) : Pushed s t a s₁ b := by
  constructor
  case runsOn => exact hruns
  case refs => exact hrefs
  case onOwner => exact howner
  case opens =>
    intro r hr
    rw [Act.opens_of_bare hbare] at hr
    cases hr
  case hands =>
    intro r hr
    rw [Act.hands_of_bare hbare] at hr
    cases hr
  case deliver | readSelect | inserts =>
    rintro r x rfl
    cases hbare
  all_goals
    rintro r rfl
    cases hbare

theorem pushed_removeStream
    (href : r ∈ a.refs ∨ (∃ i, s.streams i = some r) ∨ s.count = r ∧ s₁.count = s.count + 1)
    (hremoves : (s₁.obj r).closed = true ∨ a.opens r = true ∧ (s₁.obj r).owned = (s.obj r).owned) :
    Pushed s t a s₁ (.removeStream r) := by
  constructor
  case refs =>
      intro q hq
      rw [List.mem_singleton.1 hq]
      exact href
  case removes =>
      rintro q ⟨⟩
      exact hremoves
  all_goals first | exact fun _ => rfl | nofun

theorem onErr_pushed (err : Err)
    (ha : a = .writeFrame frame purpose ∨ a = .emit frame purpose) :
    Pushes s t a s (purpose.onErr err) := by
  have hrefs : a.refs = purpose.refs := by rcases ha with rfl | rfl <;> rfl
  cases purpose with
  | opening r =>
    have hopens : a.opens r = true := by rcases ha with rfl | rfl <;> simp [Act.opens]
    refine pushes_two rfl (pushed_removeStream (Or.inl ?_) (Or.inr ⟨hopens, rfl⟩))
      (pushed_of_bare rfl (fun _ => rfl) ?_ (fun _ => rfl))
    · simp [hrefs, Purpose.refs]
    · rw [hrefs]
      exact fun q hq => Or.inl hq
  | accepting r =>
    refine pushes_one (pushed_of_bare rfl (fun _ => rfl) ?_ (fun _ => rfl))
    rw [hrefs]
    exact fun q hq => Or.inl hq
  | chunk r rest inCopy =>
    have hclose : Pushed s t a s (.forceClose r err) := by
      refine pushed_of_bare rfl (fun _ => rfl) ?_ (fun _ => rfl)
      rw [hrefs]
      exact fun q hq => Or.inl hq
    cases inCopy with
    | false => exact pushes_one hclose
    | true =>
      refine pushes_two rfl hclose (pushed_of_bare rfl ?_ ?_ ?_)
      · rcases ha with rfl | rfl <;> exact id
      · rw [hrefs]
        exact fun q hq => Or.inl hq
      · rcases ha with rfl | rfl <;> exact id
  | _ => exact pushes_nil

theorem onOk_pushed (hstreams : s₁.streams = s.streams) :
    Pushes s t (.emit frame purpose) s₁ purpose.onOk := by
  cases purpose with
  | opening r =>
    refine pushes_one ?_
    simp [pushed_iff, Act.refs, Act.runsOn, Act.onOwner, Act.opens, Act.hands, Purpose.refs,
      Purpose.runsOn, hstreams]
  | chunk r rest inCopy =>
    simp only [Purpose.onOk]
    split
    · cases inCopy with
      | false => exact pushes_nil
      | true => exact pushes_one (pushed_of_bare rfl id (fun q hq => Or.inl hq) id)
    · exact pushes_one (pushed_of_bare rfl id (fun q hq => Or.inl hq) id)
  | _ => exact pushes_nil

theorem Moves.pushed (h : Moves json s a c acts) : Pushes s t a s acts := by
  cases h with
  | openDone _ =>
    refine pushes_one (pushed_removeStream ?_ (Or.inr ⟨?_, rfl⟩))
    · simp [Act.refs]
    · simp [Act.opens]
  | openContext =>
    refine pushes_two rfl (pushed_removeStream ?_ (Or.inr ⟨?_, rfl⟩))
      (pushed_of_bare rfl (fun _ => rfl) (fun q hq => Or.inl hq) (fun _ => rfl))
    · simp [Act.refs]
    · simp [Act.opens]
  | frame =>
    exact pushes_two rfl (pushed_of_bare rfl id (List.forall_mem_nil _) (fun _ => rfl))
      (pushed_of_bare rfl id (List.forall_mem_nil _) (fun _ => rfl))
  | readErr =>
    exact pushes_two rfl (pushed_of_bare rfl (fun _ => rfl) (List.forall_mem_nil _) (fun _ => rfl))
      (pushed_of_bare rfl id (List.forall_mem_nil _) (fun _ => rfl))
  | pick hmem =>
    refine pushes_two rfl (pushed_of_bare rfl (fun _ => rfl) ?_ (fun _ => rfl))
      (pushed_of_bare rfl (fun _ => rfl) ?_ (fun _ => rfl))
    · intro q hq
      rw [List.mem_singleton.1 hq]
      exact Or.inl hmem
    · exact fun q hq => Or.inl (List.mem_of_mem_erase hq)
  | @writeFrame frame purpose _ =>
    refine pushes_one ?_
    constructor
    case runsOn => exact id
    case refs => exact fun r hr => Or.inl hr
    all_goals cases purpose <;> simp [Act.onOwner, Act.opens, Act.hands]
  | writeFrameRefused _ => exact onErr_pushed _ (Or.inl rfl)
  | oversized _ | failed _ => exact onErr_pushed _ (Or.inr rfl)
  | readWait hbuf _ =>
    refine pushes_one ?_
    simp [pushed_iff, Act.refs, Act.runsOn, Act.onOwner, Act.opens, Act.hands, hbuf]
  | @writeEmpty r inCopy =>
    cases inCopy with
    | false => exact pushes_nil
    | true => exact pushes_one (pushed_of_bare rfl id (fun q hq => Or.inl hq) id)
  | @writeRefused r p inCopy _ =>
    cases inCopy with
    | false => exact pushes_nil
    | true => exact pushes_one (pushed_of_bare rfl id (fun q hq => Or.inl hq) id)
  | accept _ | write _ _ | writeLoop | sourceEOF =>
    exact pushes_one (pushed_of_bare rfl id (fun q hq => Or.inl hq) id)
  | overflowDone _ | deliverDone _ _ =>
    exact pushes_one (pushed_of_bare rfl (fun _ => rfl) (fun q hq => Or.inl hq) (fun _ => rfl))
  | _ => exact pushes_nil

theorem mem_registered {s : Session} :
    r ∈ s.registered ↔ r < s.count ∧ s.streams (s.obj r).id = some r := by
  simp [registered]

/-- The switch hands a frame to the stream it found in the map. -/
theorem pushed_of_lookup {i : UInt64}
    (hr : s.streams i = some r) (hb : b = .remoteClose r ∨ (∃ ack, b = .sendAck r ack) ∨
      (∃ err, b = .forceClose r err) ∨ b = .deliver r frame.payload)
    (hdata : b = .deliver r frame.payload → frame.type = frameData ∧ frame.id = i)
    (hclose : b = .remoteClose r → frame.type = frameClose ∧ frame.id = i)
    (hobj : s₁.obj = s.obj) : Pushed s t (.handle frame) s₁ b := by
  constructor
  case refs =>
      intro q hq
      have : q = r := by rcases hb with rfl | ⟨_, rfl⟩ | ⟨_, rfl⟩ | rfl <;> simpa [Act.refs] using hq
      exact Or.inr (Or.inl ⟨i, this ▸ hr⟩)
  case deliver =>
      rintro q data rfl
      rcases hb with hb | ⟨_, hb⟩ | ⟨_, hb⟩ | hb
      · cases hb
      · cases hb
      · cases hb
      · obtain ⟨htype, rfl⟩ := hdata hb
        cases hb
        exact Or.inr ⟨frame, rfl, htype, rfl, hr, hobj⟩
  case remoteClose =>
      rintro q rfl
      rcases hb with hb | ⟨_, hb⟩ | ⟨_, hb⟩ | hb
      · obtain ⟨htype, rfl⟩ := hclose hb
        cases hb
        exact ⟨frame, rfl, htype, hr, hobj⟩
      · cases hb
      · cases hb
      · cases hb
  all_goals
    rcases hb with rfl | ⟨_, rfl⟩ | ⟨_, rfl⟩ | rfl <;>
      simp [Act.runsOn, Act.onOwner, Act.opens, Act.hands]

/-- The stack after a section: new sections, and behind them what was left, unless the read loop
    gave up its loop. -/
theorem Ran.pushed (h : Ran json s t k a c s₁ acts) :
    ∃ new rest, acts = new ++ rest ∧
      (rest = k ∨ rest = [] ∧ new.getLast? = some .readReturn) ∧ Pushes s t a s₁ new := by
  -- one section that only goes on
  have hgoOn : ∀ {b : Act}, acts = b :: k → Pushed s t a s₁ b → ∃ new rest, acts = new ++ rest ∧
      (rest = k ∨ rest = [] ∧ new.getLast? = some .readReturn) ∧ Pushes s t a s₁ new :=
    fun {b} hacts hpushed => ⟨[b], k, hacts, Or.inl rfl, pushes_one hpushed⟩
  cases h with
  | moves h => exact ⟨_, k, rfl, Or.inl rfl, h.pushed⟩
  | wrote _ => exact ⟨_, k, rfl, Or.inl rfl, onOk_pushed rfl⟩
  | shutdown _ =>
    refine hgoOn rfl (pushed_of_bare rfl (fun _ => rfl) ?_ (fun _ => rfl))
    exact fun r hr => Or.inr (Or.inl ⟨_, (mem_registered.1 hr).2⟩)
  | handle h =>
    cases h with
    | ackInvalid _ | unexpectedControl _ _ _ _ =>
      refine ⟨[_, _], [], rfl, Or.inr ⟨rfl, rfl⟩, pushes_two rfl ?_ ?_⟩
      · exact pushed_of_bare rfl (fun _ => rfl) (List.forall_mem_nil _) (fun _ => rfl)
      · exact pushed_of_bare rfl id (List.forall_mem_nil _) (fun _ => rfl)
    | unknown _ _ | control _ _ _ _ =>
      exact ⟨[], k, rfl, Or.inl rfl, pushes_nil⟩
    | ack _ hr | error _ hr =>
      exact hgoOn rfl (pushed_of_lookup hr (by simp) (by simp) (by simp) rfl)
    | close htype hr =>
      exact hgoOn rfl (pushed_of_lookup hr (by simp) (by simp) (fun _ => ⟨htype, rfl⟩) rfl)
    | data htype hr =>
      exact hgoOn rfl (pushed_of_lookup hr (by simp) (fun _ => ⟨htype, rfl⟩) (by simp) rfl)
    | openInvalid _ _ | unknownData _ _ =>
      exact hgoOn rfl (pushed_of_bare rfl id (List.forall_mem_nil _) (fun _ => rfl))
    | openClosed _ _ _ =>
      refine hgoOn rfl (pushed_of_bare rfl (fun _ => rfl) ?_ (fun _ => rfl))
      intro q hq
      rw [List.mem_singleton.1 hq]
      exact Or.inr (Or.inr ⟨rfl, rfl⟩)
    | openNew _ _ _ =>
      refine hgoOn rfl ?_
      simp [pushed_iff, Act.runsOn, Act.refs, Act.onOwner, Act.opens, Act.hands, note, register,
        alloc]
  | openAccepted _ _ | sendAck | readReturn | dispatchOverflow _ | dispatch _ | overflow _
  | removeStream | shutdownEnd | readCopy _ | readEOF _ _ _ | deliver _ _ _ | closeReads _
  | closeDone => exact ⟨[], k, rfl, Or.inl rfl, pushes_nil⟩
  | openRejected _ _ =>
    refine ⟨[_, _], k, rfl, Or.inl rfl, pushes_two rfl (pushed_removeStream ?_ (Or.inr ⟨?_, ?_⟩))
      (pushed_of_bare rfl (fun _ => rfl) (fun q hq => Or.inl hq) (fun _ => rfl))⟩
    · simp [Act.refs]
    · simp [Act.opens]
    · simp [modify]
  | forceClose _ =>
    refine ⟨[_, _], k, rfl, Or.inl rfl, pushes_two rfl (pushed_removeStream ?_ (Or.inl ?_)) ?_⟩
    · simp [Act.refs]
    · simp [modify, Stream.forceClose]
    · simp [pushed_iff, Act.runsOn, Act.refs, Act.onOwner, Act.opens, Act.hands, modify,
        Stream.forceClose]
  | remoteClose h =>
    refine hgoOn rfl ?_
    simp [pushed_iff, Act.runsOn, Act.refs, Act.onOwner, Act.opens, Act.hands, modify, h]
  | openInsert _ _ =>
    refine hgoOn rfl ?_
    simp [pushed_iff, Act.runsOn, Act.refs, Act.onOwner, Act.opens, Act.hands, Purpose.refs,
      Purpose.runsOn, register]
  | deliverPanic _ _ | closeReadsPanic _ =>
    refine hgoOn rfl ?_
    simp [pushed_iff, Act.runsOn, Act.refs, Act.onOwner, Act.opens, Act.hands]
  | dispatchHandler _ | dispatchDrop _ _ =>
    exact hgoOn rfl (pushed_of_bare rfl id (List.forall_mem_nil _) (fun _ => rfl))
  | readChunk _ | closeWrite _ _ | source | sourceErr =>
    exact hgoOn rfl (pushed_of_bare rfl id (fun q hq => Or.inl hq) id)

theorem Called.pushed (h : Called json s op s₁ acts) (ht : t.calls = true) :
    (∀ b ∈ acts.tail, b.follows = true) ∧ ∀ b ∈ acts, b.runsOn t = true ∧
      (∀ r ∈ b.refs, (s.obj r).owned = true ∨ s.count = r ∧ s₁.count = s.count + 1) ∧
      (∀ r, b ≠ .closeDone r) ∧ (∀ r, b ≠ .closeReads r) ∧ ∀ r, b ≠ .dispatch r := by
  cases h <;> simp_all [Act.runsOn, Act.refs, Act.follows, Purpose.runsOn, Purpose.refs, alloc]

/-! ## The streams a step changes -/

/-- The stream `r` before and after a step that can only change the streams in `P`. -/
inductive Changed (s s₁ : Session) (P : Ref → Prop) (r : Ref) : Prop where
  | same (h : s₁.obj r = s.obj r)
  | evolves (hmem : P r) (h : (s.obj r).Evolves (s₁.obj r))
  | alloc (hr : s.count = r) (hcount : s₁.count = s.count + 1)
      (h : ∃ id request born,
        s₁.obj r = { newStream s.bufferSize id with request := request, born := born })

theorem modify_changed {f : Stream → Stream} {q : Ref} (hmem : P q)
    (hobj : s₁.obj = (s.modify q f).obj) (h : (s.obj q).Evolves (f (s.obj q))) (r : Ref) :
    Changed s s₁ P r := by
  by_cases hr : r = q
  · subst hr
    exact .evolves hmem (by simpa [hobj, modify] using h)
  · exact .same (by simp [hobj, modify, hr])

theorem alloc_changed {x : Stream} (hobj : s₁.obj = Function.update s.obj s.count x)
    (hcount : s₁.count = s.count + 1)
    (hx : ∃ id request born,
      x = { newStream s.bufferSize id with request := request, born := born }) (r : Ref) :
    Changed s s₁ P r := by
  by_cases hr : r = s.count
  · subst hr
    exact .alloc rfl hcount (by simpa [hobj] using hx)
  · exact .same (by simp [hobj, hr])

theorem Handled.changed (h : Handled json s k frame s₁ acts)
    (r : Ref) : Changed s s₁ P r := by
  cases h with
  | openClosed _ _ _ => exact alloc_changed rfl rfl ⟨_, _, _, rfl⟩ r
  | @openNew request _ _ _ =>
    refine alloc_changed (x := { newStream s.bufferSize request.requestID with
      request := request, born := s.input.length }) ?_ rfl ⟨_, _, _, rfl⟩ r
    simp [note, register, alloc]
  | _ => exact .same rfl

theorem Ran.changed (hw : ∀ r, .closeDone r ∈ a :: k → (s.obj r).closed = true)
    (hreads : ∀ r, .closeReads r ∈ a :: k → (s.obj r).remoteEOF = true)
    (h : Ran json s t k a c s₁ acts) (r : Ref) :
    Changed s s₁ (fun r => r ∈ a.refs ∨ r ∈ s.incoming.buf) r := by
  cases h with
  | handle h => exact h.changed r
  | @openInsert q _ _ _ =>
    refine modify_changed (q := q) (f := fun y => { y with born := s.input.length }) ?_ (by rfl) .born
      r
    simp [Act.refs]
  | openAccepted _ _ => exact modify_changed (by simp [Act.refs]) rfl (.ack fun _ => rfl) r
  | openRejected _ _ => exact modify_changed (by simp [Act.refs]) rfl (.ack id) r
  | sendAck => exact modify_changed (by simp [Act.refs]) rfl (.ack id) r
  | @dispatchHandler q _ hbuf =>
    refine modify_changed (q := q) (f := fun y => { y with owned := true }) ?_ (by rfl)
      (.ack fun _ => rfl) r
    simp [hbuf]
  | readCopy _ => exact modify_changed (by simp [Act.refs]) rfl .copyOut r
  | readChunk hbuf => exact modify_changed (by simp [Act.refs]) rfl (.chunk hbuf) r
  | readEOF _ hclosed herr => exact modify_changed (by simp [Act.refs]) rfl (.gotEOF hclosed herr) r
  | closeWrite _ _ => exact modify_changed (by simp [Act.refs]) rfl .localEOF r
  | deliver hdata _ hfull => exact modify_changed (by simp [Act.refs]) rfl (.push hdata hfull) r
  | remoteClose _ => exact modify_changed (by simp [Act.refs]) rfl .remoteEOF r
  | closeReads _ => exact modify_changed (by simp [Act.refs]) rfl (.shut (hreads _ (by simp))) r
  | forceClose h => exact modify_changed (by simp [Act.refs]) rfl (.forceClose h) r
  | closeDone => exact modify_changed (by simp [Act.refs]) rfl (.closeDone (hw _ (by simp))) r
  | source => exact modify_changed (by simp [Act.refs]) rfl .written r
  | sourceErr => exact modify_changed (by simp [Act.refs]) rfl .sourceErr r
  | _ => exact .same rfl

theorem Called.changed (h : Called json s op s₁ acts) (r : Ref) :
    Changed s s₁ (fun r => (s.obj r).owned = true) r := by
  cases h with
  | «open» => exact alloc_changed rfl rfl ⟨_, _, _, rfl⟩ r
  | write howned => exact modify_changed howned rfl .written r
  | _ => exact .same rfl

/-! ## The map and the other goroutines -/

theorem Ran.streams (h : Ran json s t k a c s₁ acts) {i : UInt64}
    (hr : s₁.streams i = some r) : s.streams i = some r ∨ (s₁.obj r).id = i ∧
      ((∃ request, a = .openInsert r request) ∨ s.count = r ∧ s₁.count = s.count + 1) := by
  cases h with
  | handle h =>
    cases h with
    | openNew _ _ _ =>
      simp only [note, register, alloc, Function.update_self, Function.update_apply] at hr ⊢
      split at hr
      · next hi =>
        cases Option.some.inj hr
        exact Or.inr ⟨by simp [hi], Or.inr (by simp)⟩
      · exact Or.inl hr
    | _ => exact Or.inl hr
  | openInsert _ _ =>
    simp only [register, Function.update_apply] at hr ⊢
    split at hr
    · next hi =>
      cases Option.some.inj hr
      exact Or.inr ⟨by simp [hi], Or.inl ⟨_, rfl⟩⟩
    · exact Or.inl hr
  | removeStream =>
    simp only [forget] at hr
    split at hr
    · simp only [Function.update_apply] at hr
      split at hr
      · cases hr
      · exact Or.inl hr
    · exact Or.inl hr
  | _ => exact Or.inl hr

/-- Where a section on a stack comes from. -/
theorem Ran.mem_acts (h : Ran json s t k a c s₁ acts)
    (hb : b ∈ (s₁.goto t acts).threads u) : (u ≠ t ∧ b ∈ s.threads u) ∨ (u = t ∧ b ∈ acts) ∨
      ∃ r, u = .overflow r ∧ b = .overflow r ∧ a = .dispatch r := by
  by_cases hu : u = t
  · subst hu
    rw [goto_threads_self] at hb
    exact Or.inr (Or.inl ⟨rfl, hb⟩)
  · rw [goto_threads_of_ne _ _ hu] at hb
    cases h with
    | @dispatchOverflow r _ =>
      simp only [goto, Function.update_apply] at hb
      split at hb
      · next hr => exact Or.inr (Or.inr ⟨r, hr, by simpa using hb, rfl⟩)
      · exact Or.inl ⟨hu, hb⟩
    | handle h => cases h <;> exact Or.inl ⟨hu, hb⟩
    | _ => exact Or.inl ⟨hu, hb⟩

theorem Ran.mem_threads (hthread : s.threads t = a :: k) (h : Ran json s t k a c s₁ acts)
    (hb : b ∈ (s₁.goto t acts).threads u) :
    b ∈ s.threads u ∨ (u = t ∧ Pushed s t a s₁ b) ∨
      ∃ r, u = .overflow r ∧ b = .overflow r ∧ a = .dispatch r := by
  rcases h.mem_acts hb with ⟨-, hold⟩ | ⟨rfl, hacts⟩ | hnew
  · exact Or.inl hold
  · obtain ⟨new, rest, rfl, hrest, -, hnew⟩ := h.pushed
    rcases List.mem_append.1 hacts with hb | hb
    · exact Or.inr (Or.inl ⟨rfl, hnew b hb⟩)
    · rcases hrest with rfl | ⟨rfl, -⟩
      · exact Or.inl (mem_of_tail hthread hb)
      · cases hb
  · exact Or.inr (Or.inr hnew)

theorem Ran.threads_of_ne (h : Ran json s t k a c s₁ acts) (hu : u ≠ t)
    (hover : ∀ r, u ≠ .overflow r) : (s₁.goto t acts).threads u = s.threads u := by
  simp only [goto, Function.update_of_ne hu]
  cases h with
  | dispatchOverflow _ => simp [goto, Function.update_of_ne (hover _)]
  | handle h => cases h <;> rfl
  | _ => rfl

theorem Ran.mem_tail (hthread : s.threads t = a :: k) (h : Ran json s t k a c s₁ acts)
    (hb : b ∈ ((s₁.goto t acts).threads u).tail) :
    b ∈ (s.threads u).tail ∨ b.follows = true := by
  by_cases hu : u = t
  · subst hu
    rw [goto_threads_self] at hb
    obtain ⟨new, rest, rfl, hrest, hnew, -⟩ := h.pushed
    rw [hthread, List.tail_cons]
    cases new with
    | nil =>
      rcases hrest with rfl | ⟨rfl, -⟩
      · exact Or.inl (List.mem_of_mem_tail hb)
      · cases hb
    | cons x xs =>
      rcases List.mem_append.1 hb with hb | hb
      · exact Or.inr (hnew b hb)
      · rcases hrest with rfl | ⟨rfl, -⟩
        · exact Or.inl hb
        · cases hb
  · rw [goto_threads_of_ne _ _ hu] at hb
    cases h with
    | @dispatchOverflow r _ =>
      simp only [goto, Function.update_apply] at hb
      split at hb
      · cases hb
      · exact Or.inl hb
    | handle h => cases h <;> exact Or.inl hb
    | _ => exact Or.inl hb

/-! ## The invariant -/

/-- A well-formed session state. -/
structure Wf (s : Session) : Prop where
  refs : ∀ t, ∀ a ∈ s.threads t, ∀ r ∈ a.refs, r < s.count
  runsOn : ∀ t, ∀ a ∈ s.threads t, a.runsOn t = true
  follows : ∀ t, ∀ a ∈ (s.threads t).tail, a.follows = true
  streams : ∀ i r, s.streams i = some r → r < s.count ∧ (s.obj r).id = i
  incoming : ∀ r ∈ s.incoming.buf, r < s.count
  fresh : ∀ r, s.count ≤ r → s.obj r = newStream 0 0
  ok : ∀ r, (s.obj r).Ok
  closeDone : ∀ t r, .closeDone r ∈ s.threads t → (s.obj r).closed = true
  closeReads : ∀ t r, .closeReads r ∈ s.threads t →
    (s.obj r).remoteEOF = true ∧ (s.obj r).reads.closed = false
  eof : ∀ r, (s.obj r).remoteEOF = true → (s.obj r).reads.closed = true ∨
    .closeReads r ∈ s.threads .readLoop
  idle : s.started = false → s.threads .readLoop = [] ∧ s.threads .dispatchLoop = []
  done : s.done = s.closed
  output : ∀ e ∈ s.output, ∀ r ∈ e.2.refs, r < s.count

theorem new_wf (bufferSize : Nat) : (Session.new bufferSize).Wf where
  refs := by simp [Session.new]
  runsOn := by simp [Session.new]
  follows := by simp [Session.new]
  streams := by simp [Session.new]
  incoming := by simp [Session.new]
  fresh := fun _ _ => rfl
  ok := fun _ => newStream_ok 0 0
  closeDone := by simp [Session.new]
  closeReads := by simp [Session.new]
  eof := by simp [Session.new, newStream]
  idle := fun _ => ⟨rfl, rfl⟩
  done := rfl
  output := by simp [Session.new]

theorem Wf.owned_lt (hw : s.Wf) (h : (s.obj r).owned = true) : r < s.count := by
  by_contra hge
  rw [hw.fresh r (Nat.le_of_not_lt hge)] at h
  simp [newStream] at h

theorem Ran.count_le (h : Ran json s t k a c s₁ acts) : s.count ≤ s₁.count := by
  cases h with
  | handle h => cases h <;> simp [note, register, alloc]
  | _ => exact Nat.le_refl _

theorem Ran.incoming (h : Ran json s t k a c s₁ acts) (hr : r ∈ s₁.incoming.buf) :
    r ∈ s.incoming.buf ∨ a.hands r = true := by
  cases h with
  | handle h => cases h <;> exact Or.inl hr
  | dispatch hfull | overflow hfull =>
    rw [Chan.push_buf hfull, List.mem_append, List.mem_singleton] at hr
    rcases hr with hr | rfl
    · exact Or.inl hr
    · exact Or.inr (by simp [Act.hands])
  | dispatchHandler _ | dispatchDrop _ _ => exact Or.inl (List.mem_of_mem_tail hr)
  | _ => exact Or.inl hr

theorem Ran.started_eq (h : Ran json s t k a c s₁ acts) : s₁.started = s.started := by
  cases h with
  | handle h => cases h <;> rfl
  | _ => rfl

theorem Ran.done_eq (h : Ran json s t k a c s₁ acts) (hdone : s.done = s.closed) :
    s₁.done = s₁.closed := by
  cases h with
  | handle h => cases h <;> exact hdone
  | shutdown _ => rfl
  | _ => exact hdone

theorem Ran.mem_output (h : Ran json s t k a c s₁ acts) {e : Frame × Purpose}
    (he : e ∈ s₁.output) : e ∈ s.output ∨ a = .emit e.1 e.2 := by
  cases h with
  | wrote _ =>
    rw [List.mem_append, List.mem_singleton] at he
    rcases he with he | rfl
    · exact Or.inl he
    · exact Or.inr rfl
  | handle h => cases h <;> exact Or.inl he
  | _ => exact Or.inl he

/-- A section that cannot stand behind another one is the next section of its goroutine. -/
theorem Wf.head_eq (hw : s.Wf) (hthread : s.threads t = a :: k) (hb : b ∈ s.threads t)
    (hfollows : b.follows = false) : b = a := by
  rw [hthread, List.mem_cons] at hb
  rcases hb with hb | hb
  · exact hb
  · have := hw.follows t b (by rw [hthread]; exact hb)
    rw [hfollows] at this
    cases this

/-- Only the read loop drops the sections it had left. -/
theorem Ran.append_of_calls (hw : s.Wf) (hthread : s.threads t = a :: k)
    (h : Ran json s t k a c s₁ acts) (hcalls : t.calls = true) : ∃ new, acts = new ++ k := by
  obtain ⟨new, rest, rfl, rfl | ⟨rfl, hlast⟩, -, hnew⟩ := h.pushed
  · exact ⟨new, rfl⟩
  · have hrunsOn := (hnew _ (List.mem_of_getLast? hlast)).runsOn
      (hw.runsOn t a (mem_of_head hthread))
    simp only [Act.runsOn, decide_eq_true_eq] at hrunsOn
    subst hrunsOn
    cases hcalls

/-- Unless the read loop is just between the two, `reads` is closed once `remoteEOF` is set. -/
theorem Wf.reads_closed (hw : s.Wf) (hthread : s.threads .readLoop = a :: k)
    (ha : a ≠ .closeReads r) (heof : (s.obj r).remoteEOF = true) :
    (s.obj r).reads.closed = true := by
  rcases hw.eof r heof with hclosed | hmem
  · exact hclosed
  · exact absurd (hw.head_eq hthread hmem rfl).symm ha

/-- How `remoteEOF` comes about. -/
theorem Ran.remoteEOF (h : Ran json s t k a c s₁ acts)
    (hr : (s₁.obj r).remoteEOF = true) :
    (s.obj r).remoteEOF = true ∧ ((s.obj r).reads.closed = true → (s₁.obj r).reads.closed = true) ∨
      (s₁.obj r).reads.closed = true ∨ a = .remoteClose r ∧ acts = .closeReads r :: k := by
  have htouched := h.touched r
  generalize s₁.obj r = y at htouched hr ⊢
  cases htouched with
  | remoteEOF _ => exact Or.inr (Or.inr ⟨rfl, rfl⟩)
  | forceClosed _ =>
    by_cases heof : (s.obj r).remoteEOF = true <;> simp [Stream.forceClose, heof]
  | shut => exact Or.inr (Or.inl rfl)
  | new _ => cases hr
  | _ => exact Or.inl ⟨hr, by simp [Stream.copyOut]⟩

/-- How the channel `reads` comes to be closed. -/
theorem Ran.reads_closed (h : Ran json s t k a c s₁ acts)
    (hr : (s₁.obj r).reads.closed = true) :
    (s.obj r).reads.closed = true ∨ (a = .closeReads r ∧ acts = k) ∨
      (s.obj r).remoteEOF = false ∧ c = .go ∧ (s.obj r).closeOnce = .idle ∧
        ∃ err, a = .forceClose r err := by
  have htouched := h.touched r
  generalize s₁.obj r = y at htouched hr
  cases htouched with
  | shut => exact Or.inr (Or.inl ⟨rfl, rfl⟩)
  | @forceClosed err honce =>
    by_cases heof : (s.obj r).remoteEOF = true
    · exact Or.inl (by simpa [Stream.forceClose, heof] using hr)
    · exact Or.inr (Or.inr ⟨Bool.eq_false_of_not_eq_true heof, rfl, honce, err, rfl⟩)
  | new _ => cases hr
  | chunk _ | delivered _ _ => exact Or.inl (by simpa using hr)
  | _ => exact Or.inl hr

theorem Ran.closeReads_closes (h : Ran json s t k (.closeReads r) c s₁ acts) :
    (s₁.obj r).reads.closed = true := by
  cases h with
  | moves h => cases h
  | closeReads _ => simp [modify]
  | closeReadsPanic h => exact h

theorem Changed.evolves_of_lt (h : Changed s s₁ P r) (hr : r < s.count) :
    (s.obj r).Evolves (s₁.obj r) := by
  cases h with
  | same h => exact h ▸ .same
  | evolves _ h => exact h
  | alloc hr' => lia

theorem Changed.id_eq (h : Changed s s₁ P r) (hr : r < s.count) :
    (s₁.obj r).id = (s.obj r).id := (h.evolves_of_lt hr).id_eq

theorem Changed.keeps (h : Changed s s₁ P r) (hw : s.Wf) :
    (s.obj r).Keeps (s₁.obj r) := by
  by_cases hr : r < s.count
  · exact (h.evolves_of_lt hr).keeps
  · rw [hw.fresh r (Nat.le_of_not_lt hr)]
    constructor <;> simp [newStream]

theorem Changed.ok (h : Changed s s₁ P r) (hok : (s.obj r).Ok) :
    (s₁.obj r).Ok := by
  cases h with
  | same h => rw [h]; exact hok
  | evolves _ h => exact hok.evolves h
  | alloc _ _ h =>
    obtain ⟨id, request, born, h⟩ := h
    rw [h]
    have hnew := newStream_ok s.bufferSize id
    exact ⟨hnew.once, hnew.readErr, hnew.writeErr, hnew.closedEOF, hnew.readsEOF, hnew.chunks,
      hnew.done⟩

theorem Wf.changed (hw : s.Wf) (hthread : s.threads t = a :: k) (h : Ran json s t k a c s₁ acts) :
    ∀ r, Changed s s₁ (fun r => r ∈ a.refs ∨ r ∈ s.incoming.buf) r :=
  h.changed (fun r hr => hw.closeDone t r (hthread ▸ hr))
    (fun r hr => (hw.closeReads t r (hthread ▸ hr)).1)

theorem Ran.keeps (h : Ran json s t k a c s₁ acts) (hw : s.Wf) (hthread : s.threads t = a :: k)
    (r : Ref) : (s.obj r).Keeps (s₁.obj r) :=
  (hw.changed hthread h r).keeps hw

theorem Ran.id_eq (h : Ran json s t k a c s₁ acts) (hw : s.Wf) (hthread : s.threads t = a :: k)
    (hr : r < s.count) : (s₁.obj r).id = (s.obj r).id :=
  (hw.changed hthread h r).id_eq hr

/-- `close(reads)` is due only for a stream that the peer has ended and whose channel is open. -/
theorem Wf.run_closeReads (hw : s.Wf) (hthread : s.threads t = a :: k)
    (h : Ran json s t k a c s₁ acts) (hb : .closeReads r ∈ (s₁.goto t acts).threads u) :
    (s₁.obj r).remoteEOF = true ∧ (s₁.obj r).reads.closed = false := by
  have hmem : a ∈ s.threads t := hthread ▸ List.mem_cons_self ..
  rcases h.mem_threads hthread hb with hmem' | ⟨rfl, hpushed⟩ | ⟨q, -, hq, -⟩
  · obtain ⟨heof, hreads⟩ := hw.closeReads u r hmem'
    refine ⟨(h.keeps hw hthread r).remoteEOF heof, ?_⟩
    by_contra hclosed
    rcases h.reads_closed (Bool.eq_true_of_not_eq_false hclosed) with hc | ⟨rfl, rfl⟩ | ⟨hc, -⟩
    · rw [hreads] at hc
      cases hc
    · -- the section that closes the channel is gone afterwards
      have hut : u = t := by
        have hu := hw.runsOn u _ hmem'
        have ht := hw.runsOn t _ hmem
        simp only [Act.runsOn, decide_eq_true_eq] at hu ht
        rw [hu, ht]
      subst hut
      rw [goto_threads_self] at hb
      have := hw.follows u _ (by rw [hthread]; exact hb)
      simp [Act.follows] at this
    · rw [heof] at hc
      cases hc
  · rcases hpushed.closeReads r rfl with ⟨rfl, hobj⟩ | ⟨hbefore, hafter, hreads⟩
    · have := hw.closeReads u r hmem
      rwa [← hobj] at this
    · refine ⟨hafter, ?_⟩
      rw [hreads]
      exact (hw.ok r).reads_open hbefore
  · cases hq

/-- **A section keeps the state well formed.** -/
theorem Wf.run (hw : s.Wf) (hthread : s.threads t = a :: k) (h : Ran json s t k a c s₁ acts) :
    (s₁.goto t acts).Wf := by
  have hmem : a ∈ s.threads t := hthread ▸ List.mem_cons_self ..
  have hrefs : ∀ r ∈ a.refs, r < s.count := hw.refs t a hmem
  have hrunsOn : a.runsOn t = true := hw.runsOn t a hmem
  have hchanged := hw.changed hthread h
  have hcount := h.count_le
  refine ⟨?_, ?_, ?_, ?_, ?_, ?_, ?_, ?_, ?_, ?_, ?_, h.done_eq hw.done, ?_⟩
  · -- refs
    intro u b hb r hr
    rcases h.mem_threads hthread hb with hb | ⟨rfl, hb⟩ | ⟨q, -, rfl, rfl⟩
    · exact Nat.lt_of_lt_of_le (hw.refs u b hb r hr) hcount
    · show r < s₁.count
      rcases hb.refs r hr with hr | ⟨i, hr⟩ | ⟨hr, hc⟩
      · exact Nat.lt_of_lt_of_le (hrefs r hr) hcount
      · exact Nat.lt_of_lt_of_le (hw.streams i r hr).1 hcount
      · lia
    · exact Nat.lt_of_lt_of_le (hrefs r hr) hcount
  · -- runsOn
    intro u b hb
    rcases h.mem_threads hthread hb with hb | ⟨rfl, hb⟩ | ⟨q, rfl, rfl, -⟩
    · exact hw.runsOn u b hb
    · exact hb.runsOn hrunsOn
    · simp [Act.runsOn]
  · -- follows
    intro u b hb
    rcases h.mem_tail hthread hb with hb | hb
    · exact hw.follows u b hb
    · exact hb
  · -- streams
    intro i r hr
    rcases h.streams hr with hr | ⟨hid, hr⟩
    · obtain ⟨hlt, hid⟩ := hw.streams i r hr
      exact ⟨Nat.lt_of_lt_of_le hlt hcount, (hchanged r).id_eq hlt ▸ hid⟩
    · refine ⟨?_, hid⟩
      show r < s₁.count
      rcases hr with ⟨request, rfl⟩ | ⟨hr, hc⟩
      · exact Nat.lt_of_lt_of_le (hrefs r (by simp [Act.refs])) hcount
      · lia
  · -- incoming
    intro r hr
    rcases h.incoming hr with hr | hr
    · exact Nat.lt_of_lt_of_le (hw.incoming r hr) hcount
    · exact Nat.lt_of_lt_of_le (hrefs r (Act.refs_of_hands hr)) hcount
  · -- fresh
    intro r hr
    have hr' : s₁.count ≤ r := hr
    cases hchanged r with
    | same h => exact h.trans (hw.fresh r (Nat.le_trans hcount hr'))
    | evolves hmem _ =>
      have hlt : r < s.count := hmem.elim (hrefs r) (hw.incoming r)
      lia
    | alloc hr'' hc _ => lia
  · exact fun r => (hchanged r).ok (hw.ok r)
  · -- closeDone
    intro u r hb
    rcases h.mem_threads hthread hb with hb | ⟨rfl, hb⟩ | ⟨q, -, hb, -⟩
    · exact (h.keeps hw hthread r).closed (hw.closeDone u r hb)
    · exact hb.closeDone r rfl
    · cases hb
  · exact fun u r hb => (hw.run_closeReads hthread h hb :)
  · -- eof
    intro r hr
    have keep : a ≠ .closeReads r → .closeReads r ∈ s.threads .readLoop →
        .closeReads r ∈ (s₁.goto t acts).threads .readLoop := by
      intro hne hb
      have hut : Tid.readLoop ≠ t := by
        rintro rfl
        exact hne (hw.head_eq hthread hb rfl).symm
      rwa [h.threads_of_ne hut (by simp)]
    rcases h.remoteEOF hr with ⟨hbefore, hmono⟩ | hclosed | ⟨rfl, rfl⟩
    · rcases hw.eof r hbefore with hclosed | hb
      · exact Or.inl (hmono hclosed)
      · by_cases hne : a = .closeReads r
        · subst hne
          exact Or.inl h.closeReads_closes
        · exact Or.inr (keep hne hb)
    · exact Or.inl hclosed
    · simp only [Act.runsOn, decide_eq_true_eq] at hrunsOn
      subst hrunsOn
      exact Or.inr (by simp [goto])
  · -- idle
    intro hstarted
    obtain ⟨hread, hdispatch⟩ := hw.idle (h.started_eq ▸ hstarted)
    rw [h.threads_of_ne _ (by simp), h.threads_of_ne _ (by simp)]
    · exact ⟨hread, hdispatch⟩
    · rintro rfl
      rw [hdispatch] at hthread
      cases hthread
    · rintro rfl
      rw [hread] at hthread
      cases hthread
  · -- output
    intro e he r hr
    rcases h.mem_output he with he | rfl
    · exact Nat.lt_of_lt_of_le (hw.output e he r hr) hcount
    · exact Nat.lt_of_lt_of_le (hrefs r hr) hcount

/-- Only `Start` touches the goroutines of the session. -/
theorem Called.threads (h : Called json s op s₁ acts) : s₁.threads = s.threads ∨
    s.started = false ∧ s₁.threads = Function.update (Function.update s.threads .readLoop [.readFrame])
      .dispatchLoop [.dispatchLoop] := by
  cases h with
  | start hstarted => exact Or.inr ⟨hstarted, rfl⟩
  | _ => exact Or.inl rfl

/-- What a goroutine has before it after a call. -/
theorem Called.thread_cases (h : Called json s op s₁ acts) (u : Tid) :
    (s₁.goto t acts).threads u = s.threads u ∨ u = t ∧ (s₁.goto t acts).threads u = acts ∨
      u = .readLoop ∧ (s₁.goto t acts).threads u = [.readFrame] ∨
      u = .dispatchLoop ∧ (s₁.goto t acts).threads u = [.dispatchLoop] := by
  by_cases hu : u = t
  · subst hu
    exact Or.inr (Or.inl ⟨rfl, goto_threads_self ..⟩)
  · rw [goto_threads_of_ne _ _ hu]
    rcases h.threads with heq | ⟨-, heq⟩
    · exact Or.inl (by rw [heq])
    · rw [heq]
      simp only [Function.update_apply]
      split
      · next hu => exact Or.inr (Or.inr (Or.inr ⟨hu, rfl⟩))
      · split
        · next hu => exact Or.inr (Or.inr (Or.inl ⟨hu, rfl⟩))
        · exact Or.inl rfl

theorem Called.mem_threads (h : Called json s op s₁ acts)
    (hb : b ∈ (s₁.goto t acts).threads u) : b ∈ s.threads u ∨ (u = t ∧ b ∈ acts) ∨
      (u = .readLoop ∧ b = .readFrame) ∨ (u = .dispatchLoop ∧ b = .dispatchLoop) := by
  rcases h.thread_cases u with heq | ⟨hu, heq⟩ | ⟨hu, heq⟩ | ⟨hu, heq⟩ <;> rw [heq] at hb
  · exact Or.inl hb
  · exact Or.inr (Or.inl ⟨hu, hb⟩)
  · exact Or.inr (Or.inr (Or.inl ⟨hu, List.mem_singleton.1 hb⟩))
  · exact Or.inr (Or.inr (Or.inr ⟨hu, List.mem_singleton.1 hb⟩))

/-- A call leaves the read loop where it is, or starts it. -/
theorem Called.readLoop_eq (hw : s.Wf) (hcalls : t.calls = true) (h : Called json s op s₁ acts) :
    (s₁.goto t acts).threads .readLoop = s.threads .readLoop ∨
      s.threads .readLoop = [] ∧ (s₁.goto t acts).threads .readLoop = [.readFrame] := by
  have hut : Tid.readLoop ≠ t := by
    rintro rfl
    cases hcalls
  simp only [goto, Function.update_of_ne hut]
  rcases h.threads with heq | ⟨hstarted, heq⟩
  · exact Or.inl (by rw [heq])
  · exact Or.inr ⟨(hw.idle hstarted).1, by rw [heq]; rfl⟩

/-- A call changes of an existing stream only what was written to it. -/
theorem Called.obj_eq (h : Called json s op s₁ acts) (hr : r < s.count) :
    ∃ p, s₁.obj r = { s.obj r with written := p } ∧
      (p = (s.obj r).written ∨ ∃ p', op = .write r p' ∧ p = (s.obj r).written ++ p') := by
  have hne : r ≠ s.count := by lia
  cases h with
  | «open» => exact ⟨(s.obj r).written, by simp [alloc, hne], Or.inl rfl⟩
  | @write q p _ =>
    by_cases hq : r = q
    · subst hq
      exact ⟨_, by simp [modify], Or.inr ⟨p, rfl, rfl⟩⟩
    · exact ⟨(s.obj r).written, by simp [modify, hq], Or.inl rfl⟩
  | _ => exact ⟨_, rfl, Or.inl rfl⟩

theorem Called.new_obj (hw : s.Wf) (h : Called json s op s₁ acts) (hr : s.count ≤ r) :
    ∃ n id request born, s₁.obj r = { newStream n id with request := request, born := born } := by
  cases h.changed r with
  | same heq => exact ⟨0, 0, _, _, heq.trans (hw.fresh r hr)⟩
  | evolves howned _ => exact absurd (hw.owned_lt howned) (Nat.not_lt.2 hr)
  | alloc _ _ h => exact ⟨_, h⟩

/-- **A call keeps the state well formed.** -/
theorem Wf.call (hw : s.Wf) (hcalls : t.calls = true) (h : Called json s op s₁ acts) :
    (s₁.goto t acts).Wf := by
  obtain ⟨htail, hnew⟩ := h.pushed hcalls
  have hchanged := h.changed
  have hcount : s.count ≤ s₁.count := by
    cases h <;> simp [alloc, modify, goto]
  have hkeep : ∀ b ∈ s.threads .readLoop, b ∈ (s₁.goto t acts).threads .readLoop := by
    intro b hb
    rcases h.readLoop_eq hw hcalls with heq | ⟨hnil, -⟩
    · exact heq ▸ hb
    · rw [hnil] at hb
      cases hb
  have hstreams : ∀ i r, s₁.streams i = some r → s.streams i = some r := by
    cases h <;> exact fun _ _ => id
  refine ⟨?_, ?_, ?_, ?_, ?_, ?_, ?_, ?_, ?_, ?_, ?_, ?_, ?_⟩
  · -- refs
    intro u b hb r hr
    rcases h.mem_threads hb with hb | ⟨-, hb⟩ | ⟨-, rfl⟩ | ⟨-, rfl⟩
    · exact Nat.lt_of_lt_of_le (hw.refs u b hb r hr) hcount
    · rcases (hnew b hb).2.1 r hr with howned | ⟨rfl, hc⟩
      · exact Nat.lt_of_lt_of_le (hw.owned_lt howned) hcount
      · show s.count < s₁.count
        lia
    · cases hr
    · cases hr
  · -- runsOn
    intro u b hb
    rcases h.mem_threads hb with hb | ⟨rfl, hacts⟩ | ⟨rfl, rfl⟩ | ⟨rfl, rfl⟩
    · exact hw.runsOn u b hb
    · exact (hnew b hacts).1
    · rfl
    · rfl
  · -- follows
    intro u b hb
    rcases h.thread_cases u with heq | ⟨-, heq⟩ | ⟨-, heq⟩ | ⟨-, heq⟩ <;> rw [heq] at hb
    · exact hw.follows u b hb
    · exact htail b hb
    · cases hb
    · cases hb
  · -- streams
    intro i r hr
    obtain ⟨hlt, hid⟩ := hw.streams i r (hstreams i r hr)
    exact ⟨Nat.lt_of_lt_of_le hlt hcount, (hchanged r).id_eq hlt ▸ hid⟩
  · -- incoming
    intro r hr
    refine Nat.lt_of_lt_of_le (hw.incoming r ?_) hcount
    cases h <;> exact hr
  · -- fresh
    intro r hr
    have hr' : s₁.count ≤ r := hr
    cases hchanged r with
    | same h => exact h.trans (hw.fresh r (Nat.le_trans hcount hr'))
    | evolves howned _ =>
      have hlt : r < s.count := hw.owned_lt howned
      lia
    | alloc hr'' hc _ => lia
  · exact fun r => (hchanged r).ok (hw.ok r)
  · -- closeDone
    intro u r hb
    rcases h.mem_threads hb with hb | ⟨-, hb⟩ | ⟨-, hb⟩ | ⟨-, hb⟩
    · exact ((hchanged r).keeps hw).closed (hw.closeDone u r hb)
    · exact absurd rfl ((hnew _ hb).2.2.1 r)
    · cases hb
    · cases hb
  · -- closeReads
    intro u r hb
    rcases h.mem_threads hb with hb | ⟨-, hb⟩ | ⟨-, hb⟩ | ⟨-, hb⟩
    · obtain ⟨p, hobj, -⟩ := h.obj_eq (hw.refs u _ hb r (by simp [Act.refs]))
      rw [goto_obj, hobj]
      exact hw.closeReads u r hb
    · exact absurd rfl ((hnew _ hb).2.2.2.1 r)
    · cases hb
    · cases hb
  · -- eof
    intro r hr
    by_cases hlt : r < s.count
    · obtain ⟨p, hobj, -⟩ := h.obj_eq hlt
      rw [goto_obj, hobj] at hr ⊢
      exact (hw.eof r hr).imp_right (hkeep _)
    · obtain ⟨n, id, request, born, hobj⟩ := h.new_obj hw (Nat.le_of_not_lt hlt)
      rw [goto_obj, hobj] at hr
      cases hr
  · -- idle
    intro hstarted
    have hst : s.started = false := by
      cases h <;> first | exact hstarted | cases hstarted
    have hthreads : s₁.threads = s.threads := by
      cases h <;> first | rfl | cases hstarted
    have hut : ∀ u : Tid, u.calls = false → (s₁.goto t acts).threads u = s.threads u := by
      intro u hu
      have : u ≠ t := by
        rintro rfl
        rw [hcalls] at hu
        cases hu
      simp only [goto, Function.update_of_ne this, hthreads]
    rw [hut _ rfl, hut _ rfl]
    exact hw.idle hst
  · cases h <;> exact hw.done
  · -- output
    intro e he r hr
    refine Nat.lt_of_lt_of_le (hw.output e ?_ r hr) hcount
    cases h <;> exact he

/-- Only `ReadFrame` puts a frame before the switch. -/
theorem Ran.handle_mem (h : Ran json s t k a c s₁ acts)
    (hmem : .handle frame ∈ acts) (hk : .handle frame ∉ k) :
    a = .readFrame ∧ c = .frame frame ∧ s₁ = s := by
  cases h with
  | moves h =>
    rw [List.mem_append, or_iff_left hk] at hmem
    cases h with
    | frame =>
      simp only [List.mem_cons, Act.handle.injEq, reduceCtorEq, List.not_mem_nil,
        or_false] at hmem
      exact ⟨rfl, by rw [hmem], rfl⟩
    | writeFrameRefused _ | oversized _ | failed _ =>
      have := onErr_follows _ _ _ hmem
      cases this
    | @writeEmpty _ inCopy | @writeRefused _ _ inCopy _ =>
      cases inCopy <;> simp [afterEmptyWrite, afterRefusedWrite] at hmem
    | _ => simp at hmem
  | @wrote _ purpose _ =>
    rw [List.mem_append, or_iff_left hk] at hmem
    cases purpose with
    | chunk q rest inCopy =>
      simp only [Purpose.onOk] at hmem
      split at hmem
      · cases inCopy <;> simp at hmem
      · simp at hmem
    | _ => simp [Purpose.onOk] at hmem
  | handle h => cases h <;> simp [hk] at hmem
  | _ => simp [hk] at hmem

/-- **Every step keeps the state well formed.** -/
theorem Wf.steps {l : Label} (hw : s.Wf) (h : Steps json s l s') : s'.Wf := by
  cases h with
  | call hcalls hidle h => exact hw.call hcalls h
  | run hthread h => exact hw.run hthread h

/-- **Every reachable state is well formed.** -/
theorem wf_of_reachable {bufferSize : Nat}
    (h : Transition.Reachable (step json) (Session.new bufferSize) s) : s.Wf :=
  h.invariant Wf (fun _ _ _ hw hstep => hw.steps (step_steps hstep).2) (new_wf bufferSize)

end Session

end LnProxy
