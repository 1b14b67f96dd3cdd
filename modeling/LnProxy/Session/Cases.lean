import LnProxy.Lib.Transition
import LnProxy.Session.Step

set_option autoImplicit false

/-! # What a step can do

The inversion of `Session.step`, stated once. Most sections only move their goroutine on (`Moves`);
the others change one stream, the map or a session field (`Ran`), and the read loop's switch has its
own list of outcomes (`Handled`). Every invariant of the session is proved by cases on these
relations and never unfolds `runAct`. -/

namespace LnProxy

open Protocol Transition

namespace Session

theorem mem_of_head {s : Session} {t : Tid} {a : Act} {k : List Act} (h : s.threads t = a :: k) :
    a ∈ s.threads t := h ▸ List.mem_cons_self

theorem mem_of_tail {s : Session} {t : Tid} {a b : Act} {k : List Act} (h : s.threads t = a :: k)
    (hb : b ∈ k) : b ∈ s.threads t := h ▸ List.mem_cons_of_mem a hb

/-! ## Sections that only move on -/

/-- The section `a` changes nothing but its own goroutine, which goes on with `acts` and then with
    the sections it had left. -/
inductive Moves (json : Codec) (s : Session) : Act → Choice → List Act → Prop where
  | openRefused {r : Ref} {request : OpenRequest} (h : s.closed = true ∨ ¬ s.started = true) :
      Moves json s (.openInsert r request) .go []
  | openDone {r : Ref} (h : (s.obj r).done = true) :
      Moves json s (.openSelect r) .done [.removeStream r]
  | openContext {r : Ref} :
      Moves json s (.openSelect r) .context [.removeStream r, .forceClose r .context]
  | openSession {r : Ref} (h : s.done = true) : Moves json s (.openSelect r) .sessionDone []
  | frame {frame : Frame} : Moves json s .readFrame (.frame frame) [.handle frame, .readFrame]
  | readErr {err : Err} :
      Moves json s .readFrame (.readErr err) [.shutdown (shutdownErr err), .readReturn]
  | overflowDone {r : Ref} (h : s.done = true) :
      Moves json s (.overflow r) .done [.forceClose r .closed]
  | dispatchEnd (h : s.done = true) : Moves json s .dispatchLoop .sessionDone []
  | writeFrameRefused {frame : Frame} {purpose : Purpose} (h : s.refuses = true) :
      Moves json s (.writeFrame frame purpose) .go (purpose.onErr .closed)
  | writeFrame {frame : Frame} {purpose : Purpose} (h : s.refuses = false) :
      Moves json s (.writeFrame frame purpose) .go [.emit frame purpose]
  | oversized {frame : Frame} {purpose : Purpose} (h : ¬ frame.fits) :
      Moves json s (.emit frame purpose) .go (purpose.onErr (.frameSize frame.payload.length))
  | failed {frame : Frame} {purpose : Purpose} {n : Nat} {err : Err} (h : frame.fits) :
      Moves json s (.emit frame purpose) (.failed n err) (purpose.onErr err)
  | shutdownAgain {err : Err} (h : s.close = .finished) : Moves json s (.shutdown err) .go []
  | pick {rs : List Ref} {err : Err} {r : Ref} (h : r ∈ rs) :
      Moves json s (.forceCloseAll rs err) (.pick r)
        [.forceClose r err, .forceCloseAll (rs.erase r) err]
  | closeConn : Moves json s .closeConn .go []
  | acceptDone {r : Ref} (h : (s.obj r).done = true) : Moves json s (.accept r) .go []
  | accept {r : Ref} (h : ¬ (s.obj r).done = true) :
      Moves json s (.accept r) .go [.writeFrame
        (ackFrame json (s.obj r).id ⟨true, "", (s.obj r).remoteExit, ""⟩) (.accepting r)]
  | readFailed {r : Ref} {n : Nat} (hbuf : (s.obj r).readBuf = [])
      (h : (s.obj r).readErr ≠ none) : Moves json s (.read r n) .go []
  | readWait {r : Ref} {n : Nat} (hbuf : (s.obj r).readBuf = [])
      (h : (s.obj r).readErr = none) : Moves json s (.read r n) .go [.readSelect r n]
  | readClosedErr {r : Ref} {n : Nat} (h : (s.obj r).readErr ≠ none) :
      Moves json s (.readSelect r n) .go []
  | readDone {r : Ref} {n : Nat} (h : (s.obj r).done = true) :
      Moves json s (.readSelect r n) .done []
  | writeEmpty {r : Ref} {inCopy : Bool} :
      Moves json s (.write r [] inCopy) .go (afterEmptyWrite r inCopy)
  | writeRefused {r : Ref} {p : Bytes} {inCopy : Bool}
      (h : (s.obj r).writeErr ≠ none ∨ (s.obj r).closed = true) :
      Moves json s (.write r p inCopy) .go (afterRefusedWrite r inCopy)
  | write {r : Ref} {p : Bytes} {inCopy : Bool} (hp : p ≠ []) (h : (s.obj r).closed = false) :
      Moves json s (.write r p inCopy) .go [.writeLoop r p inCopy]
  | writeLoop {r : Ref} {p : Bytes} {inCopy : Bool} :
      Moves json s (.writeLoop r p inCopy) .go [.writeFrame
        (dataFrame (s.obj r).id (p.take maxDataSize)) (.chunk r (p.drop maxDataSize) inCopy)]
  | closeWriteAgain {r : Ref} (h : (s.obj r).closed = true ∨ (s.obj r).localEOF = true) :
      Moves json s (.closeWrite r) .go []
  | deliverEmpty {r : Ref} : Moves json s (.deliver r []) .go []
  | deliverDone {r : Ref} {data : Bytes} (hdata : data ≠ []) (h : (s.obj r).done = true) :
      Moves json s (.deliver r data) .done [.forceClose r .closed]
  | remoteCloseAgain {r : Ref} (h : (s.obj r).remoteEOF = true) :
      Moves json s (.remoteClose r) .go []
  | forceCloseAgain {r : Ref} {err : Err} (h : (s.obj r).closeOnce = .finished) :
      Moves json s (.forceClose r err) .go []
  | sourceEOF {r : Ref} : Moves json s (.copyLoop r) (.sourceEnd none) [.closeWrite r]

/-! ## The switch of the read loop -/

/-- The outcomes of the first section of handling a frame. -/
inductive Handled (json : Codec) (s : Session) (k : List Act) (frame : Frame) :
    Session → List Act → Prop where
  | openInvalid {cause : String} (htype : frame.type = frameOpen)
      (h : decodeOpen json frame = .error cause) :
      Handled json s k frame (s.note frame none)
        (.writeFrame (errorFrame json frame.id ("invalid open request: " ++ cause))
          (.reply s.input.length) :: k)
  | openClosed {request : OpenRequest} (htype : frame.type = frameOpen)
      (h : decodeOpen json frame = .ok request) (hclosed : s.closed = true) :
      Handled json s k frame
        ((s.alloc { newStream s.bufferSize request.requestID with request := request }).note
          frame none)
        (.forceClose s.count .closed :: k)
  | openNew {request : OpenRequest} (htype : frame.type = frameOpen)
      (h : decodeOpen json frame = .ok request) (hclosed : s.closed = false) :
      Handled json s k frame
        (((s.alloc { newStream s.bufferSize request.requestID with request := request }).register
          s.count).note frame (some s.count))
        (.dispatch s.count :: k)
  | ackInvalid {cause : String} (htype : frame.type = frameOpenAck) :
      Handled json s k frame (s.note frame none) [.shutdown (.decodeAck cause), .readReturn]
  | unknown (htype : frame.type = frameOpenAck ∨ frame.type = frameClose ∨ frame.type = frameError)
      (h : s.streams frame.id = none) : Handled json s k frame (s.note frame none) k
  | ack {r : Ref} {ack : Ack} (htype : frame.type = frameOpenAck)
      (h : s.streams frame.id = some r) :
      Handled json s k frame (s.note frame (some r)) (.sendAck r ack :: k)
  | unknownData (htype : frame.type = frameData) (h : s.streams frame.id = none) :
      Handled json s k frame (s.note frame none)
        (.writeFrame (closeFrame frame.id) (.reply s.input.length) :: k)
  | data {r : Ref} (htype : frame.type = frameData) (h : s.streams frame.id = some r) :
      Handled json s k frame (s.note frame (some r)) (.deliver r frame.payload :: k)
  | close {r : Ref} (htype : frame.type = frameClose) (h : s.streams frame.id = some r) :
      Handled json s k frame (s.note frame (some r)) (.remoteClose r :: k)
  | error {r : Ref} {message : String} (htype : frame.type = frameError)
      (h : s.streams frame.id = some r) :
      Handled json s k frame (s.note frame (some r)) (.forceClose r (.message message) :: k)
  | unexpectedControl (h : s.control = none) (hopen : frame.type ≠ frameOpen)
      (hdata : frame.type ≠ frameData) (hclose : frame.type ≠ frameClose) :
      Handled json s k frame (s.note frame none)
        [.shutdown (.unexpectedControl frame.type), .readReturn]
  | control {handler : ControlHandler} (h : s.control = some handler)
      (hopen : frame.type ≠ frameOpen) (hdata : frame.type ≠ frameData)
      (hclose : frame.type ≠ frameClose) :
      Handled json s k frame
        { s.note frame none with controlCalls := s.controlCalls ++ [(handler, frame)] } k

theorem handle_handled (json : Codec) (s : Session) (k : List Act) (frame : Frame) :
    Handled json s k frame (s.handle json k frame).1 (s.handle json k frame).2 := by
  unfold handle
  split
  · next htype =>
    split
    · next cause h => exact .openInvalid htype h
    · next request h =>
      by_cases hclosed : s.closed = true
      · rw [if_pos hclosed]; exact .openClosed htype h hclosed
      · rw [if_neg hclosed]; exact .openNew htype h (by simpa using hclosed)
  · next hopen =>
    split
    · next htype =>
      split
      · exact .ackInvalid htype
      · split
        · next h => exact .unknown (Or.inl htype) h
        · next r h => exact .ack htype h
    · split
      · next htype =>
        split
        · next h => exact .unknownData htype h
        · next r h => exact .data htype h
      · next hdata =>
        split
        · next htype =>
          split
          · next h => exact .unknown (Or.inr (Or.inl htype)) h
          · next r h => exact .close htype h
        · next hclose =>
          split
          · next htype =>
            split
            · next h => exact .unknown (Or.inr (Or.inr htype)) h
            · next r h => exact .error htype h
          · split
            · next h => exact .unexpectedControl h hopen hdata hclose
            · next handler h => exact .control h hopen hdata hclose

/-! ## Sections with an effect -/

/-- Goroutine `t` runs the section `a` with the sections `k` behind it: the rest of the state
    becomes `s₁` and the goroutine goes on with `acts`. -/
inductive Ran (json : Codec) (s : Session) (t : Tid) (k : List Act) :
    Act → Choice → Session → List Act → Prop where
  | moves {a : Act} {c : Choice} {acts : List Act} (h : Moves json s a c acts) :
      Ran json s t k a c s (acts ++ k)
  | openInsert {r : Ref} {request : OpenRequest} (hclosed : s.closed = false)
      (hstarted : s.started = true) :
      Ran json s t k (.openInsert r request) .go (s.register r)
        (.emit (openFrame json request) (.opening r) :: k)
  | openAccepted {r : Ref} {ack : Ack} {acks : List Ack} (h : (s.obj r).ack.buf = ack :: acks)
      (hok : ack.ok = true) :
      Ran json s t k (.openSelect r) .ack
        (s.modify r (fun y => { y with ack := y.ack.pop, remoteExit := ack.exitID, owned := true }))
        k
  | openRejected {r : Ref} {ack : Ack} {acks : List Ack} (h : (s.obj r).ack.buf = ack :: acks)
      (hok : ack.ok = false) :
      Ran json s t k (.openSelect r) .ack (s.modify r (fun y => { y with ack := y.ack.pop }))
        (.removeStream r :: .forceClose r (.message (rejectMessage ack)) :: k)
  | handle {frame : Frame} {s₁ : Session} {acts : List Act} (h : Handled json s k frame s₁ acts) :
      Ran json s t k (.handle frame) .go s₁ acts
  | sendAck {r : Ref} {ack : Ack} :
      Ran json s t k (.sendAck r ack) .go
        (s.modify r (fun y => { y with ack := if y.ack.full then y.ack else y.ack.push ack })) k
  | readReturn : Ran json s t k .readReturn .go { s with readDone := true } k
  | dispatchOverflow {r : Ref} (h : s.incoming.full = true) :
      Ran json s t k (.dispatch r) .go (s.goto (.overflow r) [.overflow r]) k
  | dispatch {r : Ref} (h : s.incoming.full = false) :
      Ran json s t k (.dispatch r) .go { s with incoming := s.incoming.push r } k
  | overflow {r : Ref} (h : s.incoming.full = false) :
      Ran json s t k (.overflow r) .go { s with incoming := s.incoming.push r } k
  | dispatchHandler {r : Ref} {rs : List Ref} (h : s.incoming.buf = r :: rs) :
      Ran json s t k .dispatchLoop .go
        { s.modify r (fun y => { y with owned := true }) with
          incoming := s.incoming.pop, handled := s.handled ++ [r] }
        (.dispatchLoop :: k)
  | dispatchDrop {r : Ref} {rs : List Ref} (h : s.incoming.buf = r :: rs)
      (hhandler : s.handler = false) :
      Ran json s t k .dispatchLoop .go { s with incoming := s.incoming.pop } (.dispatchLoop :: k)
  | wrote {frame : Frame} {purpose : Purpose} (h : frame.fits) :
      Ran json s t k (.emit frame purpose) .wrote
        { s with output := s.output ++ [(frame, purpose)] } (purpose.onOk ++ k)
  | removeStream {r : Ref} : Ran json s t k (.removeStream r) .go (s.forget r) k
  | shutdown {err : Err} (h : s.close = .idle) :
      Ran json s t k (.shutdown err) .go
        { s with closed := true, err := some err, done := true, close := .running }
        (.forceCloseAll s.registered err :: k)
  | shutdownEnd {err : Err} :
      Ran json s t k (.forceCloseAll [] err) .go { s with close := .finished } k
  | readCopy {r : Ref} {n : Nat} (h : (s.obj r).readBuf ≠ []) :
      Ran json s t k (.read r n) .go (s.modify r (fun y => y.copyOut n)) k
  | readChunk {r : Ref} {n : Nat} {data : Bytes} {ds : List Bytes}
      (h : (s.obj r).reads.buf = data :: ds) :
      Ran json s t k (.readSelect r n) .go
        (s.modify r (fun y => { y with reads := y.reads.pop, readBuf := data })) (.read r n :: k)
  | readEOF {r : Ref} {n : Nat} (hbuf : (s.obj r).reads.buf = [])
      (hclosed : (s.obj r).reads.closed = true) (herr : (s.obj r).readErr = none) :
      Ran json s t k (.readSelect r n) .go (s.modify r (fun y => { y with gotEOF := true })) k
  | closeWrite {r : Ref} (hclosed : (s.obj r).closed = false)
      (hlocal : (s.obj r).localEOF = false) :
      Ran json s t k (.closeWrite r) .go (s.modify r (fun y => { y with localEOF := true }))
        (.writeFrame (closeFrame (s.obj r).id) (.closing r) :: k)
  | deliver {r : Ref} {data : Bytes} (hdata : data ≠ []) (hclosed : (s.obj r).reads.closed = false)
      (hfull : (s.obj r).reads.full = false) :
      Ran json s t k (.deliver r data) .go
        (s.modify r (fun y => { y with reads := y.reads.push data })) k
  | deliverPanic {r : Ref} {data : Bytes} (hdata : data ≠ [])
      (hclosed : (s.obj r).reads.closed = true) :
      Ran json s t k (.deliver r data) .go { s with crashed := true } (.deliver r data :: k)
  | remoteClose {r : Ref} (h : (s.obj r).remoteEOF = false) :
      Ran json s t k (.remoteClose r) .go (s.modify r (fun y => { y with remoteEOF := true }))
        (.closeReads r :: k)
  | closeReads {r : Ref} (h : (s.obj r).reads.closed = false) :
      Ran json s t k (.closeReads r) .go
        (s.modify r (fun y => { y with reads := y.reads.shut })) k
  | closeReadsPanic {r : Ref} (h : (s.obj r).reads.closed = true) :
      Ran json s t k (.closeReads r) .go { s with crashed := true } (.closeReads r :: k)
  | forceClose {r : Ref} {err : Err} (h : (s.obj r).closeOnce = .idle) :
      Ran json s t k (.forceClose r err) .go (s.modify r (fun y => y.forceClose err))
        (.removeStream r :: .closeDone r :: k)
  | closeDone {r : Ref} :
      Ran json s t k (.closeDone r) .go
        (s.modify r (fun y => { y with done := true, closeOnce := .finished })) k
  | source {r : Ref} {p : Bytes} :
      Ran json s t k (.copyLoop r) (.source p)
        (s.modify r (fun y => { y with written := y.written ++ p })) (.write r p true :: k)
  | sourceErr {r : Ref} {err : Err} :
      Ran json s t k (.copyLoop r) (.sourceEnd (some err))
        (s.modify r (fun y => { y with sourceErr := some err })) (.closeWrite r :: k)

/-- What a section makes of the stream `r`. -/
inductive Touched (s : Session) (k : List Act) (r : Ref) : Act → Choice → List Act → Stream → Prop where
  | same {a : Act} {c : Choice} {acts : List Act} : Touched s k r a c acts (s.obj r)
  | new {frame : Frame} {acts : List Act} {id : UInt64} {request : OpenRequest} {born : Nat}
      (h : s.count = r) : Touched s k r (.handle frame) .go acts
        { newStream s.bufferSize id with request := request, born := born }
  | inserted {request : OpenRequest} {acts : List Act} :
      Touched s k r (.openInsert r request) .go acts { s.obj r with born := s.input.length }
  | accepted {ack : Chan Ack} {exit : String} : Touched s k r (.openSelect r) .ack k
      { s.obj r with ack := ack, remoteExit := exit, owned := true }
  | rejected {ack : Chan Ack} {acts : List Act} :
      Touched s k r (.openSelect r) .ack acts { s.obj r with ack := ack }
  | acked {ack : Ack} {acks : Chan Ack} :
      Touched s k r (.sendAck r ack) .go k { s.obj r with ack := acks }
  | handed {rs : List Ref} {acts : List Act} (h : s.incoming.buf = r :: rs) :
      Touched s k r .dispatchLoop .go acts { s.obj r with owned := true }
  | copied {n : Nat} : Touched s k r (.read r n) .go k ((s.obj r).copyOut n)
  | chunk {n : Nat} {data : Bytes} {ds : List Bytes} (h : (s.obj r).reads.buf = data :: ds) :
      Touched s k r (.readSelect r n) .go (.read r n :: k)
        { s.obj r with reads := (s.obj r).reads.pop, readBuf := data }
  | gotEOF {n : Nat} (hbuf : (s.obj r).reads.buf = []) (hclosed : (s.obj r).reads.closed = true)
      (herr : (s.obj r).readErr = none) :
      Touched s k r (.readSelect r n) .go k { s.obj r with gotEOF := true }
  | localEOF {acts : List Act} (hclosed : (s.obj r).closed = false) :
      Touched s k r (.closeWrite r) .go acts { s.obj r with localEOF := true }
  | delivered {data : Bytes} (hclosed : (s.obj r).reads.closed = false)
      (hfull : (s.obj r).reads.full = false) :
      Touched s k r (.deliver r data) .go k { s.obj r with reads := (s.obj r).reads.push data }
  | remoteEOF (h : (s.obj r).remoteEOF = false) :
      Touched s k r (.remoteClose r) .go (.closeReads r :: k) { s.obj r with remoteEOF := true }
  | shut : Touched s k r (.closeReads r) .go k { s.obj r with reads := (s.obj r).reads.shut }
  | forceClosed {err : Err} (h : (s.obj r).closeOnce = .idle) :
      Touched s k r (.forceClose r err) .go (.removeStream r :: .closeDone r :: k)
        ((s.obj r).forceClose err)
  | closeDone :
      Touched s k r (.closeDone r) .go k { s.obj r with done := true, closeOnce := .finished }
  | source {p : Bytes} {acts : List Act} : Touched s k r (.copyLoop r) (.source p) acts
      { s.obj r with written := (s.obj r).written ++ p }
  | sourceErr {err : Err} {acts : List Act} :
      Touched s k r (.copyLoop r) (.sourceEnd (some err)) acts { s.obj r with sourceErr := some err }

theorem touched_of_update {s : Session} {k acts : List Act} {q r : Ref} {a : Act} {c : Choice}
    {x : Stream} (h : Touched s k q a c acts x) :
    Touched s k r a c acts (Function.update s.obj q x r) := by
  by_cases hr : r = q
  · subst hr
    rwa [Function.update_self]
  · rw [Function.update_of_ne hr]
    exact .same

theorem Ran.touched {json : Codec} {s s₁ : Session} {t : Tid} {k acts : List Act} {a : Act}
    {c : Choice} (h : Ran json s t k a c s₁ acts) (r : Ref) : Touched s k r a c acts (s₁.obj r) := by
  cases h with
  | handle h =>
    cases h with
    | openClosed _ _ _ => exact touched_of_update (.new rfl)
    | openNew _ _ _ =>
      simp only [note, register, alloc, Function.update_self, Function.update_idem]
      exact touched_of_update (.new rfl)
    | _ => exact .same
  | openInsert _ _ => exact touched_of_update .inserted
  | openAccepted _ _ => exact touched_of_update .accepted
  | openRejected _ _ => exact touched_of_update .rejected
  | sendAck => exact touched_of_update .acked
  | dispatchHandler h => exact touched_of_update (.handed h)
  | readCopy _ => exact touched_of_update .copied
  | readChunk h => exact touched_of_update (.chunk h)
  | readEOF hbuf hclosed herr => exact touched_of_update (.gotEOF hbuf hclosed herr)
  | closeWrite hclosed _ => exact touched_of_update (.localEOF hclosed)
  | deliver _ hclosed hfull => exact touched_of_update (.delivered hclosed hfull)
  | remoteClose h => exact touched_of_update (.remoteEOF h)
  | closeReads _ => exact touched_of_update .shut
  | forceClose h => exact touched_of_update (.forceClosed h)
  | closeDone => exact touched_of_update .closeDone
  | source => exact touched_of_update .source
  | sourceErr => exact touched_of_update .sourceErr
  | _ => exact .same

/-! ## Calls -/

/-- What a call does: the state becomes `s₁` and the caller's goroutine runs `acts`. -/
inductive Called (json : Codec) (s : Session) : Op → Session → List Act → Prop where
  | start {handler : Bool} (hstarted : s.started = false) :
      Called json s (.start handler)
        (({ s with started := true, handler := handler }.goto .readLoop [.readFrame]).goto
          .dispatchLoop [.dispatchLoop]) []
  | startClosed {handler : Bool} (h : s.closed = true) :
      Called json s (.start handler) s [.closeConn]
  | setControlHandler {handler : ControlHandler} :
      Called json s (.setControlHandler handler) { s with control := some handler } []
  | writeJSON {frameType : FrameType} {id : UInt64} {payload : Bytes}
      (h : ¬ (frameOpen ≤ frameType ∧ frameType ≤ frameError)) :
      Called json s (.writeJSON frameType id payload) s
        [.writeFrame ⟨frameType, id, payload⟩ .control]
  | open {request : OpenRequest} :
      Called json s (.open request)
        ({ s with nextID := s.nextID + 1 }.alloc
          (newStream s.bufferSize (s.openRequest request).requestID))
        [.openInsert s.count (s.openRequest request)]
  | close : Called json s .close s [.shutdown .closed, .closeConn]
  | accept {r : Ref} (h : (s.obj r).owned = true) : Called json s (.accept r) s [.accept r]
  | reject {r : Ref} {message : String} (h : (s.obj r).owned = true) :
      Called json s (.reject r message) s
        [.writeFrame (ackFrame json (s.obj r).id ⟨false, message, "", ""⟩) (.rejecting r),
          .forceClose r (.message message)]
  | read {r : Ref} {n : Nat} (h : (s.obj r).owned = true) :
      Called json s (.read r n) s [.read r n]
  | write {r : Ref} {p : Bytes} (h : (s.obj r).owned = true) :
      Called json s (.write r p) (s.modify r (fun y => { y with written := y.written ++ p }))
        [.write r p false]
  | closeWrite {r : Ref} (h : (s.obj r).owned = true) :
      Called json s (.closeWrite r) s [.closeWrite r]
  | relay {r : Ref} (h : (s.obj r).owned = true) : Called json s (.relay r) s [.copyLoop r]

/-- One step: a call, or a section. -/
inductive Steps (json : Codec) (s : Session) : Label → Session → Prop where
  | call {t : Tid} {op : Op} {s₁ : Session} {acts : List Act} (hcalls : t.calls = true)
      (hidle : s.threads t = []) (h : Called json s op s₁ acts) :
      Steps json s (.call t op) (s₁.goto t acts)
  | run {t : Tid} {a : Act} {k : List Act} {c : Choice} {s₁ : Session} {acts : List Act}
      (hthread : s.threads t = a :: k) (h : Ran json s t k a c s₁ acts) :
      Steps json s (.run t c) (s₁.goto t acts)

/-! ## Inversion -/

/-- A goroutine that goes on with what it had is not moved. -/
private theorem goto_self {s : Session} {t : Tid} {k : List Act} (h : s.threads t = k) :
    s.goto t k = s := by
  rw [goto, ← h, Function.update_eq_self]

/-- A section that runs is as listed. -/
private theorem ran_of_some {json : Codec} {s s' s₁ : Session} {t : Tid} {k acts : List Act} {a : Act}
    {c : Choice} (h : some (s₁.goto t acts) = some s') (hran : Ran json s t k a c s₁ acts) :
    ∃ s₁ acts, Ran json s t k a c s₁ acts ∧ s' = s₁.goto t acts := by
  cases h
  exact ⟨s₁, acts, hran, rfl⟩

theorem runAct_ran {json : Codec} {s s' : Session} {t : Tid} {k : List Act} {a : Act} {c : Choice}
    (hthread : s.threads t = a :: k) (h : s.runAct json t k a c = some s') :
    ∃ s₁ acts, Ran json s t k a c s₁ acts ∧ s' = s₁.goto t acts := by
  unfold runAct at h
  split at h
  · -- openInsert
    split at h
    · next hrefused =>
      exact ran_of_some h (.moves (.openRefused hrefused))
    · next hgo =>
      cases Option.some.inj h
      simp only [not_or, not_not] at hgo
      exact ⟨_, _, .openInsert (by simpa using hgo.1) hgo.2, rfl⟩
  · -- openSelect, the acknowledgement
    split at h
    · cases h
    · next ack acks hbuf =>
      split at h
      · next hok =>
        cases Option.some.inj h
        exact ⟨_, _, .openAccepted hbuf hok, by simp [modify]⟩
      · next hok =>
        exact ran_of_some h (.openRejected hbuf (by simpa using hok))
  · obtain ⟨hdone, rfl⟩ := eq_of_ite_some h
    exact ⟨_, _, .moves (.openDone hdone), rfl⟩
  · exact ran_of_some h (.moves .openContext)
  · obtain ⟨hdone, rfl⟩ := eq_of_ite_some h
    exact ⟨_, _, .moves (.openSession hdone), rfl⟩
  · exact ran_of_some h (.moves .frame)
  · exact ran_of_some h (.moves .readErr)
  · exact ran_of_some h (.handle (handle_handled json s k _))
  · exact ran_of_some h .sendAck
  · exact ran_of_some h .readReturn
  · -- dispatch
    split at h
    · next hfull =>
      exact ran_of_some h (.dispatchOverflow hfull)
    · next hfull =>
      exact ran_of_some h (.dispatch (by simpa using hfull))
  · split at h
    · cases h
    · next hfull =>
      exact ran_of_some h (.overflow (by simpa using hfull))
  · obtain ⟨hdone, rfl⟩ := eq_of_ite_some h
    exact ⟨_, _, .moves (.overflowDone hdone), rfl⟩
  · -- dispatchLoop
    split at h
    · cases h
    · next r rs hbuf =>
      split at h
      · exact ran_of_some h (.dispatchHandler hbuf)
      · next hhandler =>
        exact ran_of_some h (.dispatchDrop hbuf (by simpa using hhandler))
  · obtain ⟨hdone, rfl⟩ := eq_of_ite_some h
    exact ⟨_, _, .moves (.dispatchEnd hdone), rfl⟩
  · -- writeFrame
    split at h
    · next hrefuses =>
      exact ran_of_some h (.moves (.writeFrameRefused hrefuses))
    · next hrefuses =>
      exact ran_of_some h (.moves (.writeFrame (by simpa using hrefuses)))
  · split at h
    · cases h
    · next hfits =>
      exact ran_of_some h (.moves (.oversized hfits))
  · obtain ⟨hfits, rfl⟩ := eq_of_ite_some h
    exact ⟨_, _, .wrote hfits, rfl⟩
  · obtain ⟨hfits, rfl⟩ := eq_of_ite_some h
    exact ⟨_, _, .moves (.failed hfits), rfl⟩
  · exact ran_of_some h .removeStream
  · -- shutdown
    split at h
    · next hclose =>
      exact ran_of_some h (.shutdown hclose)
    · cases h
    · next hclose =>
      exact ran_of_some h (.moves (.shutdownAgain hclose))
  · exact ran_of_some h .shutdownEnd
  · obtain ⟨hmem, rfl⟩ := eq_of_ite_some h
    exact ⟨_, _, .moves (.pick hmem), rfl⟩
  · exact ran_of_some h (.moves .closeConn)
  · -- accept
    split at h
    · next hdone =>
      exact ran_of_some h (.moves (.acceptDone hdone))
    · next hdone =>
      exact ran_of_some h (.moves (.accept hdone))
  · -- read
    split at h
    · next hbuf =>
      exact ran_of_some h (.readCopy hbuf)
    · next hbuf =>
      have hbuf' := not_not.1 hbuf
      split at h
      · next herr =>
        exact ran_of_some h (.moves (.readFailed hbuf' herr))
      · next herr =>
        exact ran_of_some h (.moves (.readWait hbuf' (not_not.1 herr)))
  · -- readSelect, the chunk or the closed channel
    split at h
    · next data ds hbuf =>
      exact ran_of_some h (.readChunk hbuf)
    · next hbuf =>
      split at h
      · next hclosed =>
        split at h
        · next herr =>
          exact ran_of_some h (.readEOF hbuf hclosed herr)
        · next herr =>
          exact ran_of_some h (.moves (.readClosedErr herr))
      · cases h
  · obtain ⟨hdone, rfl⟩ := eq_of_ite_some h
    exact ⟨_, _, .moves (.readDone hdone), rfl⟩
  · -- write
    split at h
    · next hp =>
      cases Option.some.inj h
      subst hp
      exact ⟨_, _, .moves .writeEmpty, rfl⟩
    · next hp =>
      split at h
      · next hrefused =>
        exact ran_of_some h (.moves (.writeRefused hrefused))
      · next hgo =>
        cases Option.some.inj h
        simp only [not_or] at hgo
        exact ⟨_, _, .moves (.write hp (by simpa using hgo.2)), rfl⟩
  · exact ran_of_some h (.moves .writeLoop)
  · -- closeWrite
    split at h
    · next hskip =>
      exact ran_of_some h (.moves (.closeWriteAgain hskip))
    · next hgo =>
      cases Option.some.inj h
      simp only [not_or, Bool.not_eq_true] at hgo
      exact ⟨_, _, .closeWrite hgo.1 hgo.2, rfl⟩
  · -- deliver, the send
    split at h
    · next hdata =>
      cases Option.some.inj h
      subst hdata
      exact ⟨_, _, .moves .deliverEmpty, rfl⟩
    · next hdata =>
      split at h
      · next hclosed =>
        cases Option.some.inj h
        exact ⟨_, _, .deliverPanic hdata hclosed, (goto_self (by exact hthread)).symm⟩
      · next hclosed =>
        split at h
        · cases h
        · next hfull =>
          exact ran_of_some h (.deliver hdata (by simpa using hclosed) (by simpa using hfull))
  · obtain ⟨hdone, rfl⟩ := eq_of_ite_some h
    exact ⟨_, _, .moves (.deliverDone hdone.1 hdone.2), rfl⟩
  · -- remoteClose
    split at h
    · next heof =>
      exact ran_of_some h (.moves (.remoteCloseAgain heof))
    · next heof =>
      exact ran_of_some h (.remoteClose (by simpa using heof))
  · split at h
    · next hclosed =>
      cases Option.some.inj h
      exact ⟨_, _, .closeReadsPanic hclosed, (goto_self (by exact hthread)).symm⟩
    · next hclosed =>
      exact ran_of_some h (.closeReads (by simpa using hclosed))
  · -- forceClose
    split at h
    · next honce =>
      exact ran_of_some h (.forceClose honce)
    · cases h
    · next honce =>
      exact ran_of_some h (.moves (.forceCloseAgain honce))
  · exact ran_of_some h .closeDone
  · exact ran_of_some h .source
  · exact ran_of_some h (.moves .sourceEOF)
  · exact ran_of_some h .sourceErr
  · cases h

theorem begin_called {json : Codec} {s s' : Session} {t : Tid} {op : Op} (ht : t.calls = true)
    (hidle : s.threads t = []) (h : s.begin json t op = some s') :
    ∃ s₁ acts, Called json s op s₁ acts ∧ s' = s₁.goto t acts := by
  cases op with
  | start handler =>
    simp only [begin] at h
    split at h
    · cases h
    · next hstarted =>
      split at h
      · next hclosed =>
        cases Option.some.inj h
        exact ⟨_, _, .startClosed hclosed, rfl⟩
      · cases Option.some.inj h
        refine ⟨_, _, .start (by simpa using hstarted), (goto_self ?_).symm⟩
        -- the two loops are not goroutines of the application
        cases t <;> simp [Tid.calls] at ht <;> simpa [goto] using hidle
  | setControlHandler handler =>
    cases Option.some.inj h
    exact ⟨_, _, .setControlHandler, (goto_self (by exact hidle)).symm⟩
  | writeJSON frameType id payload =>
    simp only [begin] at h
    split at h
    · cases h
    · next htype =>
      cases Option.some.inj h
      exact ⟨_, _, .writeJSON htype, rfl⟩
  | «open» request =>
    cases Option.some.inj h
    exact ⟨_, _, .open, rfl⟩
  | close =>
    cases Option.some.inj h
    exact ⟨_, _, .close, rfl⟩
  | accept r =>
    obtain ⟨howned, rfl⟩ := eq_of_ite_some h
    exact ⟨_, _, .accept howned, rfl⟩
  | reject r message =>
    obtain ⟨howned, rfl⟩ := eq_of_ite_some h
    exact ⟨_, _, .reject howned, rfl⟩
  | read r n =>
    obtain ⟨howned, rfl⟩ := eq_of_ite_some h
    exact ⟨_, _, .read howned, rfl⟩
  | write r p =>
    obtain ⟨howned, rfl⟩ := eq_of_ite_some h
    exact ⟨_, _, .write howned, rfl⟩
  | closeWrite r =>
    obtain ⟨howned, rfl⟩ := eq_of_ite_some h
    exact ⟨_, _, .closeWrite howned, rfl⟩
  | relay r =>
    obtain ⟨howned, rfl⟩ := eq_of_ite_some h
    exact ⟨_, _, .relay howned, rfl⟩

/-- **Inversion of a step.** Nothing runs after a panic, and what runs is listed above. -/
theorem step_steps {json : Codec} {s s' : Session} {l : Label} (h : s.step json l = some s') :
    s.crashed = false ∧ Steps json s l s' := by
  cases l with
  | call t op =>
    simp only [step] at h
    split at h
    · cases h
    · next hguard =>
      simp only [not_or, not_not, Bool.not_eq_true] at hguard
      have ht : t.calls = true := by simpa using hguard.2.1
      obtain ⟨s₁, acts, hcalled, rfl⟩ := begin_called ht hguard.2.2 h
      exact ⟨hguard.1, .call ht hguard.2.2 hcalled⟩
  | run t c =>
    simp only [step] at h
    split at h
    · cases h
    · next hcrashed =>
      split at h
      · cases h
      · next a k hthread =>
        obtain ⟨s₁, acts, hran, rfl⟩ := runAct_ran hthread h
        exact ⟨by simpa using hcrashed, .run hthread hran⟩

end Session

end LnProxy
