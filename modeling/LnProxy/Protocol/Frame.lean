import LnProxy.Lib.BigEndian
import LnProxy.Text

set_option autoImplicit false

/-! # The frame protocol (`internal/protocol/frame.go`)

A frame is a type byte, a 64-bit stream id and a payload; on the wire it is a 13-byte header (type,
big-endian id, big-endian payload length) followed by the payload. `readFrame` reads one frame off
a byte string and returns the bytes it left, `encodeFrame` is what `WriteFrame` puts on the
connection. The JSON payloads go through `encoding/json`, which the model takes as a parameter
(`Codec`) with the one property the session layer relies on. -/

namespace LnProxy

abbrev Bytes := List UInt8

/-- The errors the modelled code returns or stores. -/
inductive Err where
  /-- `io.EOF` -/
  | eof
  /-- `io.ErrUnexpectedEOF` -/
  | unexpectedEOF
  /-- `net.ErrClosed` -/
  | closed
  /-- `ctx.Err()` of a cancelled context -/
  | context
  /-- `frame size %d exceeds limit` -/
  | frameSize (size : Nat)
  /-- `decode open acknowledgement: %w` -/
  | decodeAck (cause : String)
  /-- `unexpected control frame %d` -/
  | unexpectedControl (frameType : UInt8)
  /-- `errors.New(text)` -/
  | message (text : String)
  /-- Any other error of the connection. -/
  | transport (text : String)
  deriving DecidableEq, Repr

namespace Protocol

/-! ## Constants and frame types -/

def maxFrameSize : Nat := 1 <<< 20
def maxDataSize : Nat := 64 <<< 10
def headerSize : Nat := 13
def protocolTCP : String := "tcp"

/-- `type FrameType uint8`: every byte is a frame type, and twelve have names; below are the ones used
    here. -/
abbrev FrameType := UInt8

def frameChallenge : FrameType := 1
def frameAuthResponse : FrameType := 2
def frameAuthResult : FrameType := 3
def frameRegister : FrameType := 4
def frameHeartbeat : FrameType := 5
def frameOpen : FrameType := 7
def frameOpenAck : FrameType := 8
def frameData : FrameType := 9
def frameClose : FrameType := 10
def frameError : FrameType := 11

structure Frame where
  type : FrameType
  id : UInt64
  payload : Bytes
  deriving DecidableEq, Repr

structure OpenRequest where
  requestID : UInt64
  exitID : String
  destination : String
  port : UInt16
  protocol : String
  clientSelected : Bool
  deriving DecidableEq, Repr

structure Ack where
  ok : Bool
  error : String
  exitID : String
  message : String
  deriving DecidableEq, Repr

structure ErrorMessage where
  message : String
  deriving DecidableEq, Repr

/-! ## JSON payloads -/

/-- `encoding/json` at the three payload types of the stream frames. The marshallers are total (no
    field of these types can fail to marshal); unmarshalling fails with a text. The field states
    the only property the session layer uses: a `uint64` is encoded exactly, so the id a peer
    decodes is the one that was sent. -/
structure Codec where
  marshalOpen : OpenRequest → Bytes
  unmarshalOpen : Bytes → Except String OpenRequest
  marshalAck : Ack → Bytes
  unmarshalAck : Bytes → Except String Ack
  marshalError : ErrorMessage → Bytes
  unmarshalError : Bytes → Except String ErrorMessage
  requestID_exact : ∀ request, ∃ decoded,
    unmarshalOpen (marshalOpen request) = .ok decoded ∧ decoded.requestID = request.requestID

/-- The defaults `DecodeOpen` fills in: the frame's id and the protocol `tcp`. -/
def fillOpen (frameID : UInt64) (request : OpenRequest) : OpenRequest :=
  { request with
    requestID := if request.requestID = 0 then frameID else request.requestID,
    protocol := if request.protocol = "" then protocolTCP else request.protocol }

/-- `DecodeOpen`: unmarshal, fill in the defaults, then check destination, port and protocol. -/
def decodeOpen (json : Codec) (frame : Frame) : Except String OpenRequest :=
  match json.unmarshalOpen frame.payload with
  | .error cause => .error cause
  | .ok decoded =>
    let request := fillOpen frame.id decoded
    if request.destination = "" ∨ request.port = 0 then
      .error "destination and port are required"
    else if request.protocol ≠ protocolTCP then
      .error ("unsupported protocol " ++ quoted request.protocol)
    else .ok request

/-- What `json.Unmarshal` leaves in an `ErrorMessage`: the zero value when it fails. -/
def decodeError (json : Codec) (frame : Frame) : ErrorMessage :=
  match json.unmarshalError frame.payload with
  | .ok message => message
  | .error _ => ⟨""⟩

/-- An accepted open request carries its own id, or the frame's when it has none. -/
theorem decodeOpen_requestID {json : Codec} {frame : Frame} {request decoded : OpenRequest}
    (hjson : json.unmarshalOpen frame.payload = .ok decoded)
    (h : decodeOpen json frame = .ok request) :
    request.requestID = if decoded.requestID = 0 then frame.id else decoded.requestID := by
  simp only [decodeOpen, hjson] at h
  split at h
  · cases h
  · split at h
    · cases h
    · simp only [Except.ok.injEq] at h
      rw [← h, fillOpen]

/-! ## Reading and writing frames -/

/-- `io.ReadFull` of `n` bytes: `io.EOF` when there was nothing to read, `io.ErrUnexpectedEOF` when
    the input ends inside. -/
def readFull (n : Nat) (bs : Bytes) : Except Err (Bytes × Bytes) :=
  if n ≤ bs.length then .ok (bs.take n, bs.drop n)
  else if bs = [] then .error .eof
  else .error .unexpectedEOF

/-- The header `WriteFrame` builds. -/
def encodeHeader (frame : Frame) : Bytes :=
  frame.type :: BigEndian.toBytes 8 frame.id.toNat ++ BigEndian.toBytes 4 frame.payload.length

/-- The bytes of a frame: header and payload. -/
def encodeFrame (frame : Frame) : Bytes :=
  encodeHeader frame ++ frame.payload

/-- `WriteFrame`: the bytes it hands to the writer, or the error of an oversized payload. -/
def writeFrame (frame : Frame) : Except Err Bytes :=
  if maxFrameSize < frame.payload.length then .error (.frameSize frame.payload.length)
  else .ok (encodeFrame frame)

/-- `ReadFrame`: the frame at the head of the input, and the input behind it. -/
def readFrame (bs : Bytes) : Except Err (Frame × Bytes) := do
  let (header, rest) ← readFull headerSize bs
  let size := BigEndian.ofBytes (header.drop 9)
  if maxFrameSize < size then
    throw (.frameSize size)
  let (payload, rest) ← readFull size rest
  return (⟨header.headD 0, UInt64.ofNat (BigEndian.ofBytes ((header.drop 1).take 8)), payload⟩, rest)

/-- A frame whose payload is within the limit. -/
def Frame.fits (frame : Frame) : Prop := frame.payload.length ≤ maxFrameSize

instance (frame : Frame) : Decidable frame.fits := inferInstanceAs (Decidable (_ ≤ _))

@[simp] theorem encodeHeader_length (frame : Frame) : (encodeHeader frame).length = headerSize := by
  simp [encodeHeader, headerSize]

theorem readFull_append (xs ys : Bytes) : readFull xs.length (xs ++ ys) = .ok (xs, ys) := by
  simp [readFull]

theorem readFull_ok {n : Nat} {bs xs ys : Bytes} (h : readFull n bs = .ok (xs, ys)) :
    bs = xs ++ ys ∧ xs.length = n := by
  unfold readFull at h
  split at h
  · next hle =>
    simp only [Except.ok.injEq, Prod.mk.injEq] at h
    obtain ⟨rfl, rfl⟩ := h
    exact ⟨(List.take_append_drop n bs).symm, List.length_take_of_le hle⟩
  · split at h <;> cases h

/-- The three header fields read back. -/
theorem encodeHeader_fields (frame : Frame) (hfits : frame.fits) :
    (encodeHeader frame).headD 0 = frame.type ∧
      UInt64.ofNat (BigEndian.ofBytes (((encodeHeader frame).drop 1).take 8)) = frame.id ∧
      BigEndian.ofBytes ((encodeHeader frame).drop 9) = frame.payload.length := by
  have hid : BigEndian.ofBytes (BigEndian.toBytes 8 frame.id.toNat) = frame.id.toNat :=
    BigEndian.ofBytes_toBytes 8 _ (by simpa using frame.id.toNat_lt)
  have hsize : BigEndian.ofBytes (BigEndian.toBytes 4 frame.payload.length)
      = frame.payload.length := by
    refine BigEndian.ofBytes_toBytes 4 _ (Nat.lt_of_le_of_lt hfits ?_)
    decide
  refine ⟨rfl, ?_, ?_⟩
  · have htake : ((encodeHeader frame).drop 1).take 8 = BigEndian.toBytes 8 frame.id.toNat := by
      simp [encodeHeader]
    rw [htake, hid, UInt64.ofNat_toNat]
  · have hdrop : (encodeHeader frame).drop 9 = BigEndian.toBytes 4 frame.payload.length := by
      simp [encodeHeader]
    rw [hdrop, hsize]

/-- **Round trip of one frame**: reading the bytes of a frame gives it back and leaves what
    followed. -/
theorem readFrame_encodeFrame (frame : Frame) (rest : Bytes) (hfits : frame.fits) :
    readFrame (encodeFrame frame ++ rest) = .ok (frame, rest) := by
  obtain ⟨htype, hid, hsize⟩ := encodeHeader_fields frame hfits
  have hheader : readFull headerSize (encodeHeader frame ++ (frame.payload ++ rest))
      = .ok (encodeHeader frame, frame.payload ++ rest) := by
    have := readFull_append (encodeHeader frame) (frame.payload ++ rest)
    rwa [encodeHeader_length] at this
  have hle : ¬ maxFrameSize < frame.payload.length := Nat.not_lt.2 hfits
  simp only [readFrame, encodeFrame, List.append_assoc, hheader, bind, Except.bind, hsize,
    if_neg hle, readFull_append, htype, hid, pure, Except.pure]

/-- **Canonicity**: what `readFrame` accepts is the encoding of the frame it returns. -/
theorem readFrame_ok {bs rest : Bytes} {frame : Frame} (h : readFrame bs = .ok (frame, rest)) :
    bs = encodeFrame frame ++ rest ∧ frame.fits := by
  simp only [readFrame, bind, Except.bind] at h
  split at h
  · cases h
  · rename_i p hheader
    obtain ⟨header, tail⟩ := p
    obtain ⟨hbs, hlen⟩ := readFull_ok hheader
    simp only at h
    split at h
    · cases h
    · next hsize =>
      split at h
      · cases h
      · rename_i q hpayload
        obtain ⟨payload, tail'⟩ := q
        obtain ⟨htail, hplen⟩ := readFull_ok hpayload
        simp only [pure, Except.pure, Except.ok.injEq, Prod.mk.injEq] at h
        obtain ⟨rfl, rfl⟩ := h
        refine ⟨?_, by simpa [Frame.fits, hplen] using hsize⟩
        have hheader' : encodeHeader ⟨header.headD 0,
            UInt64.ofNat (BigEndian.ofBytes ((header.drop 1).take 8)), payload⟩ = header := by
          have hidlen : ((header.drop 1).take 8).length = 8 := by
            simp [hlen, headerSize]
          have hszlen : (header.drop 9).length = 4 := by simp [hlen, headerSize]
          have hidlt : BigEndian.ofBytes ((header.drop 1).take 8) < 2 ^ 64 := by
            have := BigEndian.ofBytes_lt ((header.drop 1).take 8)
            rw [hidlen] at this
            simpa using this
          have hid := BigEndian.toBytes_ofBytes ((header.drop 1).take 8)
          have hsz := BigEndian.toBytes_ofBytes (header.drop 9)
          rw [hidlen] at hid
          rw [hszlen] at hsz
          simp only [encodeHeader, UInt64.toNat_ofNat', Nat.mod_eq_of_lt hidlt, hid, hplen, hsz]
          cases header with
          | nil => simp [headerSize] at hlen
          | cons b bs' =>
            simp
        rw [hbs, htail, encodeFrame, hheader', List.append_assoc]

/-- No encoding is a proper initial part of another. -/
theorem encodeFrame_inj_of_append {f g : Frame} {xs ys : Bytes} (hf : f.fits) (hg : g.fits)
    (h : encodeFrame f ++ xs = encodeFrame g ++ ys) : f = g ∧ xs = ys := by
  have hread := readFrame_encodeFrame f xs hf
  rw [h, readFrame_encodeFrame g ys hg] at hread
  simp only [Except.ok.injEq, Prod.mk.injEq] at hread
  exact ⟨hread.1.symm, hread.2.symm⟩

/-! ## The data of one stream in a sequence of frames -/

/-- The payloads of the `FrameData` frames with the given id, concatenated. -/
def dataOf (id : UInt64) (frames : List Frame) : Bytes :=
  frames.flatMap (fun f => if f.type = frameData ∧ f.id = id then f.payload else [])

theorem dataOf_append (id : UInt64) (fs gs : List Frame) :
    dataOf id (fs ++ gs) = dataOf id fs ++ dataOf id gs := List.flatMap_append

theorem dataOf_concat (id : UInt64) (fs : List Frame) (f : Frame) :
    dataOf id (fs ++ [f]) =
      dataOf id fs ++ if f.type = frameData ∧ f.id = id then f.payload else [] := by
  simp [dataOf]

theorem dataOf_isPrefix {fs gs : List Frame} (id : UInt64) (h : fs <+: gs) :
    dataOf id fs <+: dataOf id gs := by
  obtain ⟨tail, rfl⟩ := h
  rw [dataOf_append]
  exact List.prefix_append ..

theorem dataOf_eq_nil {id : UInt64} {fs : List Frame}
    (h : ∀ f ∈ fs, f.type = frameData → f.id ≠ id) : dataOf id fs = [] := by
  simp only [dataOf, List.flatMap_eq_nil_iff, ite_eq_right_iff, and_imp]
  exact fun f hf htype hid => absurd hid (h f hf htype)

/-! ## A codec to run the model with -/

/-- A request for one fixed destination. -/
def sampleRequest (requestID : UInt64) : OpenRequest :=
  ⟨requestID, "", "example.org", 80, protocolTCP, false⟩

/-- A stand-in for `encoding/json` on the requests above and on acknowledgements without texts: it
    decodes what JSON decodes there, from shorter payloads. -/
def sampleCodec : Codec where
  marshalOpen request := BigEndian.toBytes 8 request.requestID.toNat
  unmarshalOpen payload := .ok (sampleRequest (UInt64.ofNat (BigEndian.ofBytes payload)))
  marshalAck ack := [if ack.ok then 1 else 0]
  unmarshalAck payload := .ok ⟨decide (payload = [1]), "", "", ""⟩
  marshalError _ := []
  unmarshalError _ := .ok ⟨""⟩
  requestID_exact request := by
    refine ⟨_, rfl, ?_⟩
    have hlt : request.requestID.toNat < 256 ^ 8 := by simpa using request.requestID.toNat_lt
    rw [sampleRequest, BigEndian.ofBytes_toBytes 8 _ hlt, UInt64.ofNat_toNat]

end Protocol

end LnProxy
