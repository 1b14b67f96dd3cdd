import Mathlib.Logic.Function.Basic
import LnProxy.Lib.Channel
import LnProxy.Protocol.Frame

set_option autoImplicit false

/-! # Session and stream state (`internal/session/session.go`)

A session multiplexes streams over one connection. The model keeps every `Stream` the session ever
allocated in `obj`, addressed by its allocation number (`Ref`, the pointer), so that two streams
with the same id stay different objects; `streams` is the map from ids to pointers.

Goroutines are explicit: `threads t` is the list of atomic sections the goroutine `t` still has to
run in its current call, the next one first. A section is what runs under one mutex, one channel
operation or one connection call (`Act`); everything between two sections can be interleaved with
every other goroutine.

The fields marked *history* are not in the source. They record what happened (bytes passed to
`Write`, bytes returned by `Read`, frames handled and written) and no section reads them. -/

namespace LnProxy

open Protocol

/-- The address of a stream: its position in the order of allocation. -/
abbrev Ref := Nat

/-- A `sync.Once`: unused, running its function, or finished. -/
inductive Once where
  | idle
  | running
  | finished
  deriving DecidableEq, Repr

/-- The goroutines that run session code. A call of the public API runs on one of the last three;
    which of them is the caller's choice. -/
inductive Tid where
  /-- `go s.readLoop()` -/
  | readLoop
  /-- `go s.dispatchLoop()` -/
  | dispatchLoop
  /-- The goroutine `dispatch` starts when the incoming queue is full. -/
  | overflow (r : Ref)
  /-- The goroutine that writes to stream `r`. -/
  | writer (r : Ref)
  /-- The goroutine that reads from stream `r`. -/
  | reader (r : Ref)
  /-- Any other goroutine of the application. -/
  | user (n : Nat)
  deriving DecidableEq, Repr

/-- The control handlers the program installs with `SetControlHandler`. -/
inductive ControlHandler where
  /-- `waitForRegistration` -/
  | registration
  /-- `handleExit`, once registered -/
  | heartbeat
  /-- `Manager.startSession` -/
  | catalog
  deriving DecidableEq, Repr

/-- Why a frame is written, hence how the caller goes on. -/
inductive Purpose where
  /-- `Session.Open` -/
  | opening (r : Ref)
  /-- `Stream.Accept` -/
  | accepting (r : Ref)
  /-- `Stream.Reject` -/
  | rejecting (r : Ref)
  /-- One chunk of `Stream.Write`; `rest` is still to be written, `inCopy` when `Relay` writes. -/
  | chunk (r : Ref) (rest : Bytes) (inCopy : Bool)
  /-- `Stream.CloseWrite` -/
  | closing (r : Ref)
  /-- The read loop's own answer to the `n`-th frame it handled. -/
  | reply (n : Nat)
  /-- `Session.WriteJSON` -/
  | control
  deriving DecidableEq, Repr

/-- The atomic sections, in the order of the source. -/
inductive Act where
  /-- `Open`: enter the stream into the map. -/
  | openInsert (r : Ref) (request : OpenRequest)
  /-- `Open`: wait for the acknowledgement. -/
  | openSelect (r : Ref)
  /-- `readLoop`: `protocol.ReadFrame`. -/
  | readFrame
  /-- `readLoop`: the switch on a frame, up to the end of its first locked section. -/
  | handle (frame : Frame)
  /-- `readLoop`: offer the acknowledgement to the waiting `Open`. -/
  | sendAck (r : Ref) (ack : Ack)
  /-- `readLoop` returns. -/
  | readReturn
  /-- `dispatch` -/
  | dispatch (r : Ref)
  /-- The goroutine of `dispatch`. -/
  | overflow (r : Ref)
  /-- `dispatchLoop` -/
  | dispatchLoop
  /-- `writeFrame`, `writeFrameJSON`: the check that the session is open. -/
  | writeFrame (frame : Frame) (purpose : Purpose)
  /-- `protocol.Writer.Write` -/
  | emit (frame : Frame) (purpose : Purpose)
  /-- `removeStream` -/
  | removeStream (r : Ref)
  /-- `shutdown` -/
  | shutdown (err : Err)
  /-- `shutdown`: the loop over the streams found in the map. -/
  | forceCloseAll (rs : List Ref) (err : Err)
  /-- `Session.Close`: close the connection. -/
  | closeConn
  /-- `Accept`: the check of `done`. -/
  | accept (r : Ref)
  /-- `Read`: the head of the loop. -/
  | read (r : Ref) (n : Nat)
  /-- `Read`: wait for a chunk. -/
  | readSelect (r : Ref) (n : Nat)
  /-- `Write`: the check of `writeErr` and `closed`. -/
  | write (r : Ref) (p : Bytes) (inCopy : Bool)
  /-- `Write`: the head of the loop; `p` is `p[written:]`. -/
  | writeLoop (r : Ref) (p : Bytes) (inCopy : Bool)
  /-- `CloseWrite`, and `Close`, which only calls it. -/
  | closeWrite (r : Ref)
  /-- `deliver` -/
  | deliver (r : Ref) (data : Bytes)
  /-- `remoteClose`: the locked section. -/
  | remoteClose (r : Ref)
  /-- `remoteClose`: `close(s.reads)`. -/
  | closeReads (r : Ref)
  /-- `forceClose`: the locked section. -/
  | forceClose (r : Ref) (err : Err)
  /-- `forceClose`: `close(s.done)`. -/
  | closeDone (r : Ref)
  /-- `Relay`: `copyDirection` with stream `r` as the destination, at the next read of the source. -/
  | copyLoop (r : Ref)
  deriving DecidableEq, Repr

structure Stream where
  id : UInt64
  done : Bool
  ack : Chan Ack
  reads : Chan Bytes
  readBuf : Bytes
  readErr : Option Err
  writeErr : Option Err
  remoteExit : String
  request : OpenRequest
  closed : Bool
  remoteEOF : Bool
  localEOF : Bool
  closeOnce : Once
  /-- *History*: the application holds the stream (`Open` returned it, or the handler got it). -/
  owned : Bool
  /-- *History*: how many frames the session had handled when it registered the stream. -/
  born : Nat
  /-- *History*: the arguments of the `Write` calls so far, concatenated. -/
  written : Bytes
  /-- *History*: the bytes `Read` returned so far. -/
  got : Bytes
  /-- *History*: `Read` has returned `io.EOF`. -/
  gotEOF : Bool
  /-- *History*: the error other than `io.EOF` that ended the source a `Relay` copied from. -/
  sourceErr : Option Err

/-- `newStream` -/
def newStream (bufferSize : Nat) (id : UInt64) : Stream where
  id := id
  done := false
  ack := Chan.make 1
  reads := Chan.make bufferSize
  readBuf := []
  readErr := none
  writeErr := none
  remoteExit := ""
  request := ⟨0, "", "", 0, "", false⟩
  closed := false
  remoteEOF := false
  localEOF := false
  closeOnce := .idle
  owned := false
  born := 0
  written := []
  got := []
  gotEOF := false
  sourceErr := none

structure Session where
  bufferSize : Nat
  control : Option ControlHandler
  /-- `Start` has set the connection and the writer. -/
  started : Bool
  /-- `Start` was given a stream handler. -/
  handler : Bool
  obj : Ref → Stream
  count : Nat
  streams : UInt64 → Option Ref
  incoming : Chan Ref
  closed : Bool
  err : Option Err
  done : Bool
  close : Once
  nextID : UInt64
  readDone : Bool
  threads : Tid → List Act
  /-- A goroutine has panicked and taken the process down. -/
  crashed : Bool
  /-- *History*: the frames handled, each with the stream it was handed to. -/
  input : List (Frame × Option Ref)
  /-- *History*: the frames written, each with the reason. -/
  output : List (Frame × Purpose)
  /-- *History*: the calls of control handlers. -/
  controlCalls : List (ControlHandler × Frame)
  /-- *History*: the streams passed to the stream handler. -/
  handled : List Ref

/-- `New`: the default of the buffer size is 32. -/
def Session.new (bufferSize : Nat) : Session where
  bufferSize := if bufferSize = 0 then 32 else bufferSize
  control := none
  started := false
  handler := false
  obj := fun _ => newStream 0 0
  count := 0
  streams := fun _ => none
  incoming := Chan.make 64
  closed := false
  err := none
  done := false
  close := .idle
  nextID := 0
  readDone := false
  threads := fun _ => []
  crashed := false
  input := []
  output := []
  controlCalls := []
  handled := []

/-! ## The frames a session writes -/

def openFrame (json : Codec) (request : OpenRequest) : Frame :=
  ⟨frameOpen, request.requestID, json.marshalOpen request⟩

def ackFrame (json : Codec) (id : UInt64) (ack : Ack) : Frame :=
  ⟨frameOpenAck, id, json.marshalAck ack⟩

def errorFrame (json : Codec) (id : UInt64) (message : String) : Frame :=
  ⟨frameError, id, json.marshalError ⟨message⟩⟩

def dataFrame (id : UInt64) (chunk : Bytes) : Frame := ⟨frameData, id, chunk⟩

def closeFrame (id : UInt64) : Frame := ⟨frameClose, id, []⟩

/-! ## State updates -/

namespace Session

/-- Goroutine `t` goes on with the sections `k`. -/
def goto (s : Session) (t : Tid) (k : List Act) : Session :=
  { s with threads := Function.update s.threads t k }

@[simp] theorem goto_obj (s : Session) (t : Tid) (k : List Act) : (s.goto t k).obj = s.obj := rfl
@[simp] theorem goto_count (s : Session) (t : Tid) (k : List Act) :
    (s.goto t k).count = s.count := rfl
@[simp] theorem goto_streams (s : Session) (t : Tid) (k : List Act) :
    (s.goto t k).streams = s.streams := rfl
@[simp] theorem goto_input (s : Session) (t : Tid) (k : List Act) :
    (s.goto t k).input = s.input := rfl
@[simp] theorem goto_output (s : Session) (t : Tid) (k : List Act) :
    (s.goto t k).output = s.output := rfl
@[simp] theorem goto_crashed (s : Session) (t : Tid) (k : List Act) :
    (s.goto t k).crashed = s.crashed := rfl
@[simp] theorem goto_threads_self (s : Session) (t : Tid) (k : List Act) :
    (s.goto t k).threads t = k := by simp [goto]
theorem goto_threads_of_ne {t u : Tid} (s : Session) (k : List Act) (h : u ≠ t) :
    (s.goto t k).threads u = s.threads u := by simp [goto, h]

/-- Change one stream. -/
def modify (s : Session) (r : Ref) (f : Stream → Stream) : Session :=
  { s with obj := Function.update s.obj r (f (s.obj r)) }

/-- Allocate a stream; its address is `s.count`. -/
def alloc (s : Session) (x : Stream) : Session :=
  { s with obj := Function.update s.obj s.count x, count := s.count + 1 }

/-- `s.streams[stream.id] = stream` -/
def register (s : Session) (r : Ref) : Session :=
  { s with
    streams := Function.update s.streams (s.obj r).id (some r),
    obj := Function.update s.obj r { s.obj r with born := s.input.length } }

/-- The locked section of `removeStream`. -/
def forget (s : Session) (r : Ref) : Session :=
  { s with
    streams := if s.streams (s.obj r).id = some r then Function.update s.streams (s.obj r).id none
      else s.streams }

/-- *History*: the read loop handled a frame and handed it to a stream. -/
def note (s : Session) (frame : Frame) (r : Option Ref) : Session :=
  { s with input := s.input ++ [(frame, r)] }

/-- The streams in the map. -/
def registered (s : Session) : List Ref :=
  (List.range s.count).filter (fun r => s.streams (s.obj r).id = some r)

/-- The session refuses to write: it is closed or was never started. -/
def refuses (s : Session) : Bool := s.done || s.closed || !s.started

end Session

/-- The locked section of `forceClose`. -/
def Stream.forceClose (x : Stream) (err : Err) : Stream :=
  { x with
    closed := true,
    writeErr := x.writeErr.or (some err),
    readErr := x.readErr.or (some err),
    remoteEOF := true,
    reads := if x.remoteEOF then x.reads else x.reads.shut,
    closeOnce := .running }

/-- What `Read` does with a non-empty `readBuf`: return `copy(p, s.readBuf)`. -/
def Stream.copyOut (x : Stream) (n : Nat) : Stream :=
  { x with got := x.got ++ x.readBuf.take n, readBuf := x.readBuf.drop n }

end LnProxy
