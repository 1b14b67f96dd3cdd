import LnProxy.Session.State

set_option autoImplicit false

/-! # The steps of a session

`Session.step` is one step of the session's goroutines: an application goroutine begins a call of
the public API (`Label.call`), or a goroutine runs its next atomic section (`Label.run`). Where the
source leaves the outcome open (which ready case a `select` takes, what the connection returns, the
order of a `range` over a map) the label carries it as a `Choice`. A section that would block has
no step, and a section that panics sets `crashed`, after which nothing runs. -/

namespace LnProxy

open Protocol

/-! ## Labels -/

/-- The calls of the public API. -/
inductive Op where
  | start (handler : Bool)
  | setControlHandler (handler : ControlHandler)
  | writeJSON (frameType : FrameType) (id : UInt64) (payload : Bytes)
  | open (request : OpenRequest)
  | close
  | accept (r : Ref)
  | reject (r : Ref) (message : String)
  | read (r : Ref) (n : Nat)
  | write (r : Ref) (p : Bytes)
  | closeWrite (r : Ref)
  | relay (r : Ref)
  deriving DecidableEq, Repr

/-- How a section goes on where the source does not decide it alone. -/
inductive Choice where
  /-- The only way on, or the communication case of a `select` with `done`. -/
  | go
  /-- `ReadFrame` returned a frame. -/
  | frame (frame : Frame)
  /-- `ReadFrame` failed. -/
  | readErr (err : Err)
  /-- The connection took the whole frame. -/
  | wrote
  /-- The connection failed after `n` bytes of the frame. -/
  | failed (n : Nat) (err : Err)
  /-- `select`: the acknowledgement. -/
  | ack
  /-- `select`: the stream's `done` channel. -/
  | done
  /-- `select`: the caller's context has ended. -/
  | context
  /-- `select`: the session's `done` channel. -/
  | sessionDone
  /-- The next stream of a `range` over a map. -/
  | pick (r : Ref)
  /-- The source of a `Relay` returned bytes. -/
  | source (p : Bytes)
  /-- The source of a `Relay` ended, with `io.EOF` when there is no error. -/
  | sourceEnd (err : Option Err)
  deriving DecidableEq, Repr

inductive Label where
  | call (t : Tid) (op : Op)
  | run (t : Tid) (choice : Choice)
  deriving DecidableEq, Repr

/-- The turns of goroutine `t` with these choices, one after the other. -/
def turns (t : Tid) (choices : List Choice) : List Label := choices.map (.run t)

/-- A call on goroutine `t`, and its turns. -/
def calling (t : Tid) (op : Op) (choices : List Choice) : List Label :=
  .call t op :: turns t choices

/-! ## What follows a write -/

/-- The sections that follow when the frame was written. -/
def Purpose.onOk : Purpose → List Act
  | .opening r => [.openSelect r]
  | .chunk r rest inCopy =>
    if rest = [] then (if inCopy then [.copyLoop r] else []) else [.writeLoop r rest inCopy]
  | _ => []

/-- The sections that follow when the write failed. -/
def Purpose.onErr (err : Err) : Purpose → List Act
  | .opening r => [.removeStream r, .forceClose r err]
  | .accepting r => [.forceClose r err]
  | .chunk r _ inCopy => .forceClose r err :: (if inCopy then [.closeWrite r] else [])
  | _ => []

/-- What `Write` returns to: nothing, or the copy loop of a `Relay`, which ends with `CloseWrite`
    when the write failed. -/
def afterRefusedWrite (r : Ref) (inCopy : Bool) : List Act :=
  if inCopy then [.closeWrite r] else []

def afterEmptyWrite (r : Ref) (inCopy : Bool) : List Act :=
  if inCopy then [.copyLoop r] else []

/-- `shutdown(net.ErrClosed)` for a clean end or a closed connection, `shutdown(err)` otherwise. -/
def shutdownErr (err : Err) : Err :=
  if err = .eof ∨ err = .closed then .closed else err

/-- The message of a rejected `Open`. -/
def rejectMessage (ack : Ack) : String :=
  if ack.error = "" then "exit rejected connection" else ack.error

/-- The goroutines that may call the API. -/
def Tid.calls : Tid → Bool
  | .writer _ | .reader _ | .user _ => true
  | _ => false

namespace Session

/-! ## The read loop's switch -/

/-- The first section of handling a frame: decode, then the lookup (or the insertion of an incoming
    stream, or the read of the control handler) under the session's lock. Returns the new state and
    the sections the loop goes on with; `k` is the rest of the loop. -/
def handle (json : Codec) (s : Session) (k : List Act) (frame : Frame) : Session × List Act :=
  if frame.type = frameOpen then
    match decodeOpen json frame with
    | .error cause =>
      (s.note frame none,
        .writeFrame (errorFrame json frame.id ("invalid open request: " ++ cause))
          (.reply s.input.length) :: k)
    | .ok request =>
      let s₁ := s.alloc { newStream s.bufferSize request.requestID with request := request }
      if s.closed then (s₁.note frame none, .forceClose s.count .closed :: k)
      else ((s₁.register s.count).note frame (some s.count), .dispatch s.count :: k)
  else if frame.type = frameOpenAck then
    match json.unmarshalAck frame.payload with
    | .error cause => (s.note frame none, [.shutdown (.decodeAck cause), .readReturn])
    | .ok ack =>
      match s.streams frame.id with
      | none => (s.note frame none, k)
      | some r => (s.note frame (some r), .sendAck r ack :: k)
  else if frame.type = frameData then
    match s.streams frame.id with
    | none =>
      (s.note frame none, .writeFrame (closeFrame frame.id) (.reply s.input.length) :: k)
    | some r => (s.note frame (some r), .deliver r frame.payload :: k)
  else if frame.type = frameClose then
    match s.streams frame.id with
    | none => (s.note frame none, k)
    | some r => (s.note frame (some r), .remoteClose r :: k)
  else if frame.type = frameError then
    match s.streams frame.id with
    | none => (s.note frame none, k)
    | some r =>
      (s.note frame (some r), .forceClose r (.message (decodeError json frame).message) :: k)
  else
    match s.control with
    | none => (s.note frame none, [.shutdown (.unexpectedControl frame.type), .readReturn])
    | some handler =>
      ({ s.note frame none with controlCalls := s.controlCalls ++ [(handler, frame)] }, k)

/-! ## Atomic sections -/

/-- Goroutine `t` runs the section `a`; `k` are the sections after it. -/
def runAct (json : Codec) (s : Session) (t : Tid) (k : List Act) (a : Act) (c : Choice) :
    Option Session :=
  match a, c with
  | .openInsert r request, .go =>
    if s.closed ∨ ¬ s.started then some (s.goto t k)
    else some ((s.register r).goto t (.emit (openFrame json request) (.opening r) :: k))
  | .openSelect r, .ack =>
    match (s.obj r).ack.buf with
    | [] => none
    | ack :: _ =>
      let s₁ := s.modify r (fun y => { y with ack := y.ack.pop })
      if ack.ok then
        some ((s₁.modify r (fun y =>
          { y with remoteExit := ack.exitID, owned := true })).goto t k)
      else
        some (s₁.goto t
          (.removeStream r :: .forceClose r (.message (rejectMessage ack)) :: k))
  | .openSelect r, .done =>
    if (s.obj r).done then some (s.goto t (.removeStream r :: k)) else none
  | .openSelect r, .context =>
    some (s.goto t (.removeStream r :: .forceClose r .context :: k))
  | .openSelect _, .sessionDone => if s.done then some (s.goto t k) else none
  | .readFrame, .frame frame => some (s.goto t (.handle frame :: .readFrame :: k))
  | .readFrame, .readErr err =>
    some (s.goto t (.shutdown (shutdownErr err) :: .readReturn :: k))
  | .handle frame, .go => some ((s.handle json k frame).1.goto t (s.handle json k frame).2)
  | .sendAck r ack, .go =>
    some ((s.modify r (fun y =>
      { y with ack := if y.ack.full then y.ack else y.ack.push ack })).goto t k)
  | .readReturn, .go => some ({ s with readDone := true }.goto t k)
  | .dispatch r, .go =>
    if s.incoming.full then
      some ((s.goto (.overflow r) [.overflow r]).goto t k)
    else some ({ s with incoming := s.incoming.push r }.goto t k)
  | .overflow r, .go =>
    if s.incoming.full then none
    else some ({ s with incoming := s.incoming.push r }.goto t k)
  | .overflow r, .done => if s.done then some (s.goto t (.forceClose r .closed :: k)) else none
  | .dispatchLoop, .go =>
    match s.incoming.buf with
    | [] => none
    | r :: _ =>
      let s₁ := { s with incoming := s.incoming.pop }
      if s.handler then
        some ({ s₁.modify r (fun y => { y with owned := true }) with
          handled := s.handled ++ [r] }.goto t (.dispatchLoop :: k))
      else some (s₁.goto t (.dispatchLoop :: k))
  | .dispatchLoop, .sessionDone => if s.done then some (s.goto t k) else none
  | .writeFrame frame purpose, .go =>
    if s.refuses then some (s.goto t (purpose.onErr .closed ++ k))
    else some (s.goto t (.emit frame purpose :: k))
  | .emit frame purpose, .go =>
    if frame.fits then none
    else some (s.goto t (purpose.onErr (.frameSize frame.payload.length) ++ k))
  | .emit frame purpose, .wrote =>
    if frame.fits then
      some ({ s with output := s.output ++ [(frame, purpose)] }.goto t (purpose.onOk ++ k))
    else none
  | .emit frame purpose, .failed _ err =>
    if frame.fits then some (s.goto t (purpose.onErr err ++ k)) else none
  | .removeStream r, .go => some ((s.forget r).goto t k)
  | .shutdown err, .go =>
    match s.close with
    | .idle =>
      some ({ s with closed := true, err := some err, done := true, close := .running }.goto t
        (.forceCloseAll s.registered err :: k))
    | .running => none
    | .finished => some (s.goto t k)
  | .forceCloseAll [] _, .go => some ({ s with close := .finished }.goto t k)
  | .forceCloseAll rs err, .pick r =>
    if r ∈ rs then
      some (s.goto t (.forceClose r err :: .forceCloseAll (rs.erase r) err :: k))
    else none
  | .closeConn, .go => some (s.goto t k)
  | .accept r, .go =>
    if (s.obj r).done then some (s.goto t k)
    else some (s.goto t (.writeFrame (ackFrame json (s.obj r).id ⟨true, "", (s.obj r).remoteExit, ""⟩)
      (.accepting r) :: k))
  | .read r n, .go =>
    if (s.obj r).readBuf ≠ [] then some ((s.modify r (fun y => y.copyOut n)).goto t k)
    else if (s.obj r).readErr ≠ none then some (s.goto t k)
    else some (s.goto t (.readSelect r n :: k))
  | .readSelect r n, .go =>
    match (s.obj r).reads.buf with
    | data :: _ =>
      some ((s.modify r (fun y => { y with reads := y.reads.pop, readBuf := data })).goto t
        (.read r n :: k))
    | [] =>
      if (s.obj r).reads.closed then
        if (s.obj r).readErr = none then
          some ((s.modify r (fun y => { y with gotEOF := true })).goto t k)
        else some (s.goto t k)
      else none
  | .readSelect r _, .done => if (s.obj r).done then some (s.goto t k) else none
  | .write r p inCopy, .go =>
    if p = [] then some (s.goto t (afterEmptyWrite r inCopy ++ k))
    else if (s.obj r).writeErr ≠ none ∨ (s.obj r).closed then
      some (s.goto t (afterRefusedWrite r inCopy ++ k))
    else some (s.goto t (.writeLoop r p inCopy :: k))
  | .writeLoop r p inCopy, .go =>
    some (s.goto t (.writeFrame (dataFrame (s.obj r).id (p.take maxDataSize))
      (.chunk r (p.drop maxDataSize) inCopy) :: k))
  | .closeWrite r, .go =>
    if (s.obj r).closed ∨ (s.obj r).localEOF then some (s.goto t k)
    else some ((s.modify r (fun y => { y with localEOF := true })).goto t
      (.writeFrame (closeFrame (s.obj r).id) (.closing r) :: k))
  | .deliver r data, .go =>
    if data = [] then some (s.goto t k)
    else if (s.obj r).reads.closed then some { s with crashed := true }
    else if (s.obj r).reads.full then none
    else some ((s.modify r (fun y => { y with reads := y.reads.push data })).goto t k)
  | .deliver r data, .done =>
    if data ≠ [] ∧ (s.obj r).done then some (s.goto t (.forceClose r .closed :: k)) else none
  | .remoteClose r, .go =>
    if (s.obj r).remoteEOF then some (s.goto t k)
    else some ((s.modify r (fun y => { y with remoteEOF := true })).goto t (.closeReads r :: k))
  | .closeReads r, .go =>
    if (s.obj r).reads.closed then some { s with crashed := true }
    else some ((s.modify r (fun y => { y with reads := y.reads.shut })).goto t k)
  | .forceClose r err, .go =>
    match (s.obj r).closeOnce with
    | .idle =>
      some ((s.modify r (fun y => y.forceClose err)).goto t
        (.removeStream r :: .closeDone r :: k))
    | .running => none
    | .finished => some (s.goto t k)
  | .closeDone r, .go =>
    some ((s.modify r (fun y => { y with done := true, closeOnce := .finished })).goto t k)
  | .copyLoop r, .source p =>
    some ((s.modify r (fun y => { y with written := y.written ++ p })).goto t
      (.write r p true :: k))
  | .copyLoop r, .sourceEnd none => some (s.goto t (.closeWrite r :: k))
  | .copyLoop r, .sourceEnd (some err) =>
    some ((s.modify r (fun y => { y with sourceErr := some err })).goto t (.closeWrite r :: k))
  | _, _ => none

/-! ## Calls -/

/-- `Session.Open` up to the allocation of the stream: the request's own id, or the next one. -/
def openRequest (s : Session) (request : OpenRequest) : OpenRequest :=
  { request with
    requestID := if request.requestID = 0 then s.nextID + 1 else request.requestID,
    protocol := if request.protocol = "" then protocolTCP else request.protocol }

/-- An idle application goroutine begins a call. Methods of a stream need a stream the application
    holds; `WriteJSON` is only called with control frames. -/
def begin (json : Codec) (s : Session) (t : Tid) : Op → Option Session
  | .start handler =>
    if s.started then none
    else if s.closed then some (s.goto t [.closeConn])
    else some (({ s with started := true, handler := handler }.goto .readLoop [.readFrame]).goto
      .dispatchLoop [.dispatchLoop])
  | .setControlHandler handler => some { s with control := some handler }
  | .writeJSON frameType id payload =>
    if frameOpen ≤ frameType ∧ frameType ≤ frameError then none
    else some (s.goto t [.writeFrame ⟨frameType, id, payload⟩ .control])
  | .open request =>
    let request' := s.openRequest request
    some (({ s with nextID := s.nextID + 1 }.alloc
      (newStream s.bufferSize request'.requestID)).goto t [.openInsert s.count request'])
  | .close => some (s.goto t [.shutdown .closed, .closeConn])
  | .accept r => if (s.obj r).owned then some (s.goto t [.accept r]) else none
  | .reject r message =>
    if (s.obj r).owned then
      some (s.goto t [.writeFrame (ackFrame json (s.obj r).id ⟨false, message, "", ""⟩)
        (.rejecting r), .forceClose r (.message message)])
    else none
  | .read r n => if (s.obj r).owned then some (s.goto t [.read r n]) else none
  | .write r p =>
    if (s.obj r).owned then
      some ((s.modify r (fun y => { y with written := y.written ++ p })).goto t
        [.write r p false])
    else none
  | .closeWrite r => if (s.obj r).owned then some (s.goto t [.closeWrite r]) else none
  | .relay r => if (s.obj r).owned then some (s.goto t [.copyLoop r]) else none

/-- One step of a session. -/
def step (json : Codec) (s : Session) : Label → Option Session
  | .call t op =>
    if s.crashed ∨ ¬ t.calls ∨ s.threads t ≠ [] then none else s.begin json t op
  | .run t choice =>
    if s.crashed then none
    else
      match s.threads t with
      | [] => none
      | a :: k => s.runAct json t k a choice

end Session

end LnProxy
