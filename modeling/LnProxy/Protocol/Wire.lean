import LnProxy.Lib.Segments
import LnProxy.Protocol.Frame

set_option autoImplicit false

/-! # Frames on a connection

`ReadFrame` and `WriteFrame` on an `io.Reader` whose data arrives in pieces and an `io.Writer` that
may fail. Reading in pieces is reading the concatenation (`receiveFrame_flatten`), and a writer that
takes everything gets the bytes of the frame (`sendFrame_ideal`), so both ends come down to the
functions on byte strings. -/

namespace LnProxy.Protocol

/-! ## Reading -/

/-- `io.ReadFull` of `n` bytes off a connection. -/
def receiveFull (n : Nat) (src : List Bytes) : Except Err (Bytes × List Bytes) :=
  let got := Segments.readFull n src
  if got.1.length = n then .ok got
  else if got.1 = [] then .error .eof
  else .error .unexpectedEOF

/-- `ReadFrame` off a connection. -/
def receiveFrame (src : List Bytes) : Except Err (Frame × List Bytes) := do
  let (header, src) ← receiveFull headerSize src
  let size := BigEndian.ofBytes (header.drop 9)
  if maxFrameSize < size then
    throw (.frameSize size)
  let (payload, src) ← receiveFull size src
  return (⟨header.headD 0, UInt64.ofNat (BigEndian.ofBytes ((header.drop 1).take 8)), payload⟩, src)

/-- `n` calls of `ReadFrame`. -/
def receiveFrames : Nat → List Bytes → Except Err (List Frame × List Bytes)
  | 0, src => .ok ([], src)
  | n + 1, src => do
    let (frame, src) ← receiveFrame src
    let (frames, src) ← receiveFrames n src
    return (frame :: frames, src)

/-- The same result over the concatenation of the pieces that are left. -/
def joined {α : Type} (result : Except Err (α × List Bytes)) : Except Err (α × Bytes) :=
  result.map fun (a, src) => (a, src.flatten)

theorem receiveFull_flatten (n : Nat) (src : List Bytes) :
    joined (receiveFull n src) = readFull n src.flatten := by
  obtain ⟨htake, hdrop⟩ := Segments.readFull_eq n src
  unfold receiveFull readFull
  dsimp only
  rw [htake]
  by_cases hle : n ≤ src.flatten.length
  · rw [if_pos (List.length_take_of_le hle), if_pos hle, ← htake, ← hdrop]
    rfl
  · have hshort : src.flatten.take n = src.flatten := List.take_of_length_le (by omega)
    rw [hshort, if_neg (by omega), if_neg hle]
    split <;> rfl

theorem joined_eq_ok {α : Type} {result : Except Err (α × List Bytes)} {a : α} {rest : Bytes}
    (h : joined result = .ok (a, rest)) : ∃ src, result = .ok (a, src) ∧ src.flatten = rest := by
  cases result with
  | error e => cases h
  | ok p =>
    simp only [joined, Except.map, Except.ok.injEq, Prod.mk.injEq] at h
    obtain ⟨rfl, rfl⟩ := h
    exact ⟨p.2, rfl, rfl⟩

theorem joined_eq_error {α : Type} {result : Except Err (α × List Bytes)} {e : Err}
    (h : joined result = .error e) : result = .error e := by
  cases result with
  | error e' => exact congrArg _ (by simpa [joined, Except.map] using h)
  | ok p => cases h

/-- Where the first of two readings is the same up to the pieces, so are both together. -/
theorem joined_bind {α β : Type} {x : Except Err (α × List Bytes)} {y : Except Err (α × Bytes)}
    {f : α × List Bytes → Except Err (β × List Bytes)} {g : α × Bytes → Except Err (β × Bytes)}
    (hx : joined x = y) (hfg : ∀ a src, joined (f (a, src)) = g (a, src.flatten)) :
    joined (x >>= f) = y >>= g := by
  subst hx
  cases x with
  | error e => rfl
  | ok p => exact hfg p.1 p.2

/-- **The pieces do not matter to `ReadFrame`.** -/
theorem receiveFrame_flatten (src : List Bytes) :
    joined (receiveFrame src) = readFrame src.flatten := by
  refine joined_bind (receiveFull_flatten headerSize src) fun header src => ?_
  dsimp only
  split
  · rfl
  · exact joined_bind (receiveFull_flatten _ src) fun payload src => rfl

/-! ## Writing -/

/-- An `io.Writer`: how much of a chunk it takes, and the error it returns. -/
def Sink := Bytes → Nat × Option Err

/-- The writer that takes everything. -/
def Sink.ideal : Sink := fun chunk => (chunk.length, none)

/-- `WriteFrame` on a writer that has got `w` so far. -/
def sendFrame (sink : Sink) (w : Bytes) (frame : Frame) : Bytes × Option Err :=
  if maxFrameSize < frame.payload.length then (w, some (.frameSize frame.payload.length))
  else
    let header := encodeHeader frame
    let w := w ++ header.take (sink header).1
    match (sink header).2 with
    | some err => (w, some err)
    | none =>
      if frame.payload.length = 0 then (w, none)
      else (w ++ frame.payload.take (sink frame.payload).1, (sink frame.payload).2)

/-- `WriteFrame` for each frame in turn, until one fails. -/
def sendFrames (sink : Sink) (w : Bytes) : List Frame → Bytes × Option Err
  | [] => (w, none)
  | frame :: frames =>
    match sendFrame sink w frame with
    | (w, some err) => (w, some err)
    | (w, none) => sendFrames sink w frames

theorem sendFrame_ideal (w : Bytes) {frame : Frame} (hfits : frame.fits) :
    sendFrame .ideal w frame = (w ++ encodeFrame frame, none) := by
  have hle : ¬ maxFrameSize < frame.payload.length := Nat.not_lt.2 hfits
  simp only [sendFrame, if_neg hle, Sink.ideal, List.take_length]
  split
  · next hempty => simp [encodeFrame, List.eq_nil_of_length_eq_zero hempty]
  · simp [encodeFrame]

theorem sendFrames_ideal (w : Bytes) {frames : List Frame} (hfits : ∀ f ∈ frames, f.fits) :
    sendFrames .ideal w frames = (w ++ frames.flatMap encodeFrame, none) := by
  induction frames generalizing w with
  | nil => simp [sendFrames]
  | cons frame frames ih =>
    rw [sendFrames, sendFrame_ideal w (hfits frame (List.mem_cons_self ..))]
    dsimp only
    rw [ih _ fun f hf => hfits f (List.mem_cons_of_mem _ hf), List.flatMap_cons, List.append_assoc]

/-- An oversized frame is refused before anything is written, whatever the writer does. -/
theorem sendFrame_oversized (sink : Sink) (w : Bytes) {frame : Frame} (h : ¬ frame.fits) :
    sendFrame sink w frame = (w, some (.frameSize frame.payload.length)) := by
  rw [sendFrame, if_pos (Nat.lt_of_not_le h)]

/-! ## Round trip and canonicity -/

/-- A frame at the head of the data is read, and what follows it is left. -/
theorem receiveFrame_encodeFrame {frame : Frame} {rest : Bytes} {src : List Bytes}
    (hfits : frame.fits) (hsrc : src.flatten = encodeFrame frame ++ rest) :
    ∃ src', receiveFrame src = .ok (frame, src') ∧ src'.flatten = rest := by
  refine joined_eq_ok ?_
  rw [receiveFrame_flatten, hsrc, readFrame_encodeFrame frame rest hfits]

theorem receiveFrames_encode {frames : List Frame} {rest : Bytes} {src : List Bytes}
    (hfits : ∀ f ∈ frames, f.fits) (hsrc : src.flatten = frames.flatMap encodeFrame ++ rest) :
    ∃ src', receiveFrames frames.length src = .ok (frames, src') ∧ src'.flatten = rest := by
  induction frames generalizing src with
  | nil => exact ⟨src, rfl, by simpa using hsrc⟩
  | cons frame frames ih =>
    rw [List.flatMap_cons, List.append_assoc] at hsrc
    obtain ⟨src₁, hread, hsrc₁⟩ :=
      receiveFrame_encodeFrame (hfits frame (List.mem_cons_self ..)) hsrc
    obtain ⟨src', hreads, hrest⟩ := ih (fun f hf => hfits f (List.mem_cons_of_mem _ hf)) hsrc₁
    refine ⟨src', ?_, hrest⟩
    simp only [List.length_cons, receiveFrames, hread, hreads, bind, Except.bind, pure,
      Except.pure]

/-- What `ReadFrame` accepts is what `WriteFrame` writes. -/
theorem receiveFrame_ok {frame : Frame} {src src' : List Bytes}
    (h : receiveFrame src = .ok (frame, src')) :
    src.flatten = encodeFrame frame ++ src'.flatten ∧ frame.fits := by
  have hjoined := receiveFrame_flatten src
  rw [h] at hjoined
  exact readFrame_ok hjoined.symm

/-- **The frame format is a faithful and canonical encoding**: frames within the limit are read back
    from any segmentation of what was written, with exactly the written bytes consumed; what is
    read is what writing the frame gives; and an oversized frame is refused with nothing written. -/
theorem frames_roundtrip :
    (∀ (frames : List Frame) (rest : Bytes) (src : List Bytes), (∀ f ∈ frames, f.fits) →
      src.flatten = (sendFrames .ideal [] frames).1 ++ rest →
      (sendFrames .ideal [] frames).2 = none ∧
      ∃ src', receiveFrames frames.length src = .ok (frames, src') ∧ src'.flatten = rest ∧
        (rest = [] → receiveFrame src' = .error .eof)) ∧
    (∀ (frame : Frame) (src src' : List Bytes), receiveFrame src = .ok (frame, src') →
      ∃ consumed, sendFrame .ideal [] frame = (consumed, none) ∧
        src.flatten = consumed ++ src'.flatten) ∧
    (∀ (sink : Sink) (w : Bytes) (frame : Frame), maxFrameSize < frame.payload.length →
      sendFrame sink w frame = (w, some (.frameSize frame.payload.length))) := by
  refine ⟨?_, ?_, ?_⟩
  · intro frames rest src hfits hsrc
    rw [sendFrames_ideal [] hfits, List.nil_append] at hsrc ⊢
    obtain ⟨src', hread, hrest⟩ := receiveFrames_encode hfits hsrc
    refine ⟨rfl, src', hread, hrest, ?_⟩
    intro hend
    refine joined_eq_error ?_
    rw [receiveFrame_flatten, hrest, hend]
    rfl
  · intro frame src src' h
    obtain ⟨hsrc, hfits⟩ := receiveFrame_ok h
    exact ⟨encodeFrame frame, by rw [sendFrame_ideal [] hfits, List.nil_append], hsrc⟩
  · intro sink w frame h
    exact sendFrame_oversized sink w (Nat.not_le.2 h)

/-- Two frames, the second without a payload, cut inside both headers. -/
theorem frames_roundtrip_pieces :
    ∃ src', receiveFrames 2 [[9, 0, 0, 0], [0, 0, 0, 0, 3, 0, 0, 0, 1, 7, 255], [0, 0, 0, 0, 0, 0, 0, 4],
      [0, 0, 0, 0]] = .ok ([⟨9, 3, [7]⟩, ⟨255, 4, []⟩], src') ∧ src'.flatten = [] ∧
      ([] = ([] : Bytes) → receiveFrame src' = .error .eof) :=
  (frames_roundtrip.1 [⟨9, 3, [7]⟩, ⟨255, 4, []⟩] [] _ (by decide) (by decide +kernel)).2

end LnProxy.Protocol
