import LnProxy.Protocol.Wire
import LnProxy.Session.Step

set_option autoImplicit false

/-! # Connections that are cut (`ReadFrame`, `Session.readLoop`)

`ReadFrame` makes two full reads, one of the header and one of the payload, and each of them returns
`io.EOF` if there is nothing to read. So the read loop takes a connection that was cut right behind a
header for one that ended between two frames. All other cuts inside a frame give
`io.ErrUnexpectedEOF`. -/

namespace LnProxy.Protocol

/-! ## Reading until it fails -/

/-- A loop around `ReadFrame`, for at most the given number of rounds: the frames that were read, and
    the error that ended it. -/
def receiveUntil : Nat → List Bytes → List Frame × Option Err
  | 0, _ => ([], none)
  | rounds + 1, src =>
    match receiveFrame src with
    | .error err => ([], some err)
    | .ok (frame, src) =>
      (frame :: (receiveUntil rounds src).1, (receiveUntil rounds src).2)

/-- Where the first `k` frames end. -/
def endOf (frames : List Frame) (k : Nat) : Nat := ((frames.take k).flatMap encodeFrame).length

/-- Position `n` lies between two frames, or at one of the ends. -/
def AtBoundary (frames : List Frame) (n : Nat) : Prop :=
  ∃ k ≤ frames.length, n = endOf frames k

/-- Position `n` lies between a header and its payload. -/
def BehindHeader (frames : List Frame) (n : Nat) : Prop :=
  ∃ k frame, frames[k]? = some frame ∧ frame.payload ≠ [] ∧ n = endOf frames k + headerSize

variable {frame : Frame} {frames : List Frame} {cut : Bytes} {n k : Nat}

@[simp] theorem endOf_zero : endOf frames 0 = 0 := rfl

@[simp] theorem endOf_cons_succ :
    endOf (frame :: frames) (k + 1) = (encodeFrame frame).length + endOf frames k := by
  simp [endOf]

theorem encodeFrame_length : (encodeFrame frame).length = headerSize + frame.payload.length := by
  simp [encodeFrame]

theorem atBoundary_cons_add :
    AtBoundary (frame :: frames) ((encodeFrame frame).length + n) ↔ AtBoundary frames n := by
  constructor
  · rintro ⟨k, hk, heq⟩
    cases k with
    | zero =>
      rw [endOf_zero, encodeFrame_length, headerSize] at heq
      omega
    | succ k =>
      rw [endOf_cons_succ] at heq
      exact ⟨k, by simpa using hk, by omega⟩
  · rintro ⟨k, hk, rfl⟩
    exact ⟨k + 1, by simpa using hk, endOf_cons_succ.symm⟩

theorem behindHeader_cons_add :
    BehindHeader (frame :: frames) ((encodeFrame frame).length + n) ↔ BehindHeader frames n := by
  constructor
  · rintro ⟨k, next, hnext, hne, heq⟩
    cases k with
    | zero =>
      -- the first frame has a payload, so its end lies behind the end of its header
      obtain rfl : frame = next := by simpa using hnext
      have hpos : 0 < frame.payload.length := List.length_pos_iff.2 hne
      rw [endOf_zero, encodeFrame_length] at heq
      omega
    | succ k =>
      rw [endOf_cons_succ] at heq
      exact ⟨k, next, by simpa using hnext, hne, by omega⟩
  · rintro ⟨k, next, hnext, hne, rfl⟩
    exact ⟨k + 1, next, by simpa using hnext, hne, by rw [endOf_cons_succ, Nat.add_assoc]⟩

theorem atBoundary_cons_of_lt (hlt : n < (encodeFrame frame).length) :
    AtBoundary (frame :: frames) n ↔ n = 0 := by
  constructor
  · rintro ⟨k, -, heq⟩
    cases k with
    | zero => exact heq
    | succ k =>
      rw [endOf_cons_succ] at heq
      omega
  · intro heq
    exact ⟨0, Nat.zero_le _, heq⟩

theorem behindHeader_cons_of_lt (hlt : n < (encodeFrame frame).length) :
    BehindHeader (frame :: frames) n ↔ n = headerSize := by
  constructor
  · rintro ⟨k, next, -, -, heq⟩
    cases k with
    | zero => simpa using heq
    | succ k =>
      rw [endOf_cons_succ] at heq
      omega
  · rintro rfl
    rw [encodeFrame_length] at hlt
    exact ⟨0, frame, rfl, List.length_pos_iff.1 (by omega), by simp⟩

/-! ## One frame -/

theorem readFull_short (hlt : cut.length < n) :
    readFull n cut = .error (if cut = [] then .eof else .unexpectedEOF) := by
  rw [readFull, if_neg (Nat.not_le.2 hlt)]
  split <;> rfl

/-- A frame that is cut: nothing to read before the header, or before the payload, is `io.EOF`. -/
theorem readFrame_cut (hfits : frame.fits) (hcut : cut <+: encodeFrame frame)
    (hlt : cut.length < (encodeFrame frame).length) :
    readFrame cut =
      .error (if cut.length = 0 ∨ cut.length = headerSize then .eof else .unexpectedEOF) := by
  by_cases hheader : cut.length < headerSize
  · -- the read of the header fails
    rw [readFrame, readFull_short hheader]
    by_cases hnil : cut = []
    · simp [hnil, bind, Except.bind]
    · have hne : ¬ (cut.length = 0 ∨ cut.length = headerSize) := by
        rw [List.length_eq_zero_iff]
        exact fun h => h.elim hnil (Nat.ne_of_lt hheader)
      rw [if_neg hnil, if_neg hne]
      rfl
  · -- the header is there, and a part of the payload
    obtain ⟨part, rfl⟩ : ∃ part, cut = encodeHeader frame ++ part := by
      have hle : (encodeHeader frame).length ≤ cut.length := by simpa using hheader
      obtain ⟨part, hpart⟩ :=
        List.prefix_of_prefix_length_le (List.prefix_append _ frame.payload) hcut hle
      exact ⟨part, hpart.symm⟩
    obtain ⟨-, -, hsize⟩ := encodeHeader_fields frame hfits
    have hread : readFull headerSize (encodeHeader frame ++ part) =
        .ok (encodeHeader frame, part) := by
      have happend := readFull_append (encodeHeader frame) part
      rwa [encodeHeader_length] at happend
    have hshort : part.length < frame.payload.length := by
      rw [encodeFrame_length, List.length_append, encodeHeader_length] at hlt
      omega
    have hle : ¬ maxFrameSize < frame.payload.length := Nat.not_lt.2 hfits
    have hend : (encodeHeader frame ++ part).length = 0 ∨
        (encodeHeader frame ++ part).length = headerSize ↔ part = [] := by
      rw [List.length_append, encodeHeader_length, ← List.length_eq_zero_iff, headerSize]
      omega
    simp only [readFrame, hread, bind, Except.bind, hsize, if_neg hle, readFull_short hshort, hend]

/-! ## A sequence of frames -/

/-- The first `k` frames are those that end at position `n` or before it. -/
def Whole (frames : List Frame) (n k : Nat) : Prop :=
  k ≤ frames.length ∧ ∀ j ≤ frames.length, endOf frames j ≤ n ↔ j ≤ k

/-- The error that ends the reading of frames that are cut at position `n`. -/
inductive EndsWith (frames : List Frame) (n : Nat) : Err → Prop where
  | clean (hboundary : AtBoundary frames n) (hheader : ¬ BehindHeader frames n) :
      EndsWith frames n .eof
  | behindHeader (hboundary : ¬ AtBoundary frames n) (hheader : BehindHeader frames n) :
      EndsWith frames n .eof
  | inside (hboundary : ¬ AtBoundary frames n) (hheader : ¬ BehindHeader frames n) :
      EndsWith frames n .unexpectedEOF

theorem Whole.cons (h : Whole frames n k) :
    Whole (frame :: frames) ((encodeFrame frame).length + n) (k + 1) := by
  obtain ⟨hle, hiff⟩ := h
  refine ⟨by simpa using hle, fun j hj => ?_⟩
  cases j with
  | zero => simp
  | succ j =>
    rw [endOf_cons_succ, Nat.add_le_add_iff_left, Nat.add_le_add_iff_right]
    exact hiff j (by simpa using hj)

theorem whole_zero (hlt : n < (encodeFrame frame).length) : Whole (frame :: frames) n 0 := by
  refine ⟨Nat.zero_le _, fun j _ => ?_⟩
  cases j with
  | zero => simp
  | succ j =>
    rw [endOf_cons_succ]
    omega

theorem EndsWith.cons {err : Err} (h : EndsWith frames n err) :
    EndsWith (frame :: frames) ((encodeFrame frame).length + n) err := by
  cases h with
  | clean hboundary hheader =>
    exact .clean (atBoundary_cons_add.2 hboundary) (mt behindHeader_cons_add.1 hheader)
  | behindHeader hboundary hheader =>
    exact .behindHeader (mt atBoundary_cons_add.1 hboundary) (behindHeader_cons_add.2 hheader)
  | inside hboundary hheader =>
    exact .inside (mt atBoundary_cons_add.1 hboundary) (mt behindHeader_cons_add.1 hheader)

theorem endsWith_first (hlt : n < (encodeFrame frame).length) :
    EndsWith (frame :: frames) n
      (if n = 0 ∨ n = headerSize then .eof else .unexpectedEOF) := by
  have hboundary := @atBoundary_cons_of_lt frame frames n hlt
  have hheader := @behindHeader_cons_of_lt frame frames n hlt
  by_cases hzero : n = 0
  · rw [if_pos (.inl hzero)]
    exact .clean (hboundary.2 hzero) (mt hheader.1 (by rw [hzero]; decide))
  · by_cases hsize : n = headerSize
    · rw [if_pos (.inr hsize)]
      exact .behindHeader (mt hboundary.1 hzero) (hheader.2 hsize)
    · rw [if_neg (not_or.2 ⟨hzero, hsize⟩)]
      exact .inside (mt hboundary.1 hzero) (mt hheader.1 hsize)

theorem receiveUntil_cut {src : List Bytes} (hfits : ∀ f ∈ frames, f.fits)
    (hcut : src.flatten <+: frames.flatMap encodeFrame) :
    ∃ k err, Whole frames src.flatten.length k ∧ EndsWith frames src.flatten.length err ∧
      ∀ rounds, k < rounds → receiveUntil rounds src = (frames.take k, some err) := by
  induction frames generalizing src with
  | nil =>
    have hnil : src.flatten = [] := List.prefix_nil.1 hcut
    have hread : receiveFrame src = .error .eof := by
      refine joined_eq_error ?_
      rw [receiveFrame_flatten, hnil]
      rfl
    refine ⟨0, .eof, ?_, ?_, ?_⟩
    · refine ⟨Nat.le_refl _, fun j hj => ?_⟩
      obtain rfl : j = 0 := Nat.le_zero.1 hj
      simp
    · rw [hnil]
      refine .clean ⟨0, Nat.le_refl _, rfl⟩ ?_
      rintro ⟨k, f, hf, -⟩
      simp at hf
    · intro rounds hrounds
      obtain ⟨rounds, rfl⟩ := Nat.exists_eq_add_one_of_ne_zero (Nat.ne_of_gt hrounds)
      rw [receiveUntil, hread]
      rfl
  | cons frame frames ih =>
    have hframe := hfits frame (List.mem_cons_self ..)
    rw [List.flatMap_cons] at hcut
    by_cases hlt : src.flatten.length < (encodeFrame frame).length
    · -- the first frame is cut
      have hpart : src.flatten <+: encodeFrame frame :=
        List.prefix_of_prefix_length_le hcut (List.prefix_append ..) (Nat.le_of_lt hlt)
      have hread := joined_eq_error
        ((receiveFrame_flatten src).trans (readFrame_cut hframe hpart hlt))
      refine ⟨0, _, whole_zero hlt, endsWith_first hlt, ?_⟩
      intro rounds hrounds
      obtain ⟨rounds, rfl⟩ := Nat.exists_eq_add_one_of_ne_zero (Nat.ne_of_gt hrounds)
      rw [receiveUntil, hread]
      rfl
    · -- the first frame is read, and the rest by induction
      obtain ⟨rest, hrest⟩ : encodeFrame frame <+: src.flatten :=
        List.prefix_of_prefix_length_le (List.prefix_append ..) hcut (Nat.le_of_not_lt hlt)
      obtain ⟨src', hread, hsrc'⟩ := receiveFrame_encodeFrame hframe hrest.symm
      rw [← hrest, List.prefix_append_right_inj, ← hsrc'] at hcut
      obtain ⟨k, err, hwhole, hends, hloop⟩ :=
        ih (fun f hf => hfits f (List.mem_cons_of_mem _ hf)) hcut
      rw [← hrest, List.length_append, ← hsrc']
      refine ⟨k + 1, err, hwhole.cons, hends.cons, ?_⟩
      intro rounds hrounds
      obtain ⟨rounds, rfl⟩ := Nat.exists_eq_add_one_of_ne_zero (Nat.ne_zero_of_lt hrounds)
      have hloop := hloop rounds (by omega)
      rw [receiveUntil, hread]
      simp only [hloop, List.take_succ_cons]

/-! ## The read loop -/

/-- The end that the read loop reports is that of the frames: `io.EOF` for an end between frames and
    for no other, and any other end is a failure. -/
def Distinguished (frames : List Frame) (n : Nat) (err : Err) : Prop :=
  (err = .eof ↔ AtBoundary frames n) ∧ (¬ AtBoundary frames n → shutdownErr err ≠ .closed)

theorem EndsWith.distinguished_iff {err : Err} (h : EndsWith frames n err) :
    Distinguished frames n err ↔ ¬ BehindHeader frames n := by
  cases h with
  | clean hboundary hheader =>
    refine iff_of_true ⟨iff_of_true rfl hboundary, fun hnot => absurd hboundary hnot⟩ hheader
  | behindHeader hboundary hheader =>
    refine iff_of_false ?_ (not_not_intro hheader)
    intro hdist
    exact hboundary (hdist.1.1 rfl)
  | inside hboundary hheader =>
    refine iff_of_true ⟨iff_of_false (by decide) hboundary, fun _ => by decide⟩ hheader

/-- **When a cut is told from a clean end.** For all frames, wherever their encoding is cut and in
    whatever pieces it arrives: reading until it fails gives the frames that are wholly there, and the
    error tells a cut from an end between two frames exactly if the cut is not between a header and its
    payload. There it is `io.EOF`, and the read loop reports a closed connection. -/
theorem cut_distinguished_iff {src : List Bytes} (hfits : ∀ f ∈ frames, f.fits)
    (hcut : src.flatten <+: (sendFrames .ideal [] frames).1) :
    ∃ k err, Whole frames src.flatten.length k ∧
      (∀ rounds, k < rounds → receiveUntil rounds src = (frames.take k, some err)) ∧
      (Distinguished frames src.flatten.length err ↔
        ¬ BehindHeader frames src.flatten.length) ∧
      (BehindHeader frames src.flatten.length → err = .eof ∧ shutdownErr err = .closed) := by
  rw [sendFrames_ideal [] hfits, List.nil_append] at hcut
  obtain ⟨k, err, hwhole, hends, hloop⟩ := receiveUntil_cut hfits hcut
  refine ⟨k, err, hwhole, hloop, hends.distinguished_iff, ?_⟩
  intro hheader
  cases hends with
  | clean hboundary hnot => exact absurd hheader hnot
  | behindHeader => exact ⟨rfl, rfl⟩
  | inside hboundary hnot => exact absurd hheader hnot

/-- Two frames of data. -/
def twoFrames : List Frame := [⟨9, 3, [7]⟩, ⟨9, 3, [8, 9]⟩]

/-- A cut inside the second payload. -/
theorem twoFrames_distinguished :
    ∃ err, receiveUntil 2 [[9, 0, 0, 0, 0, 0, 0, 0, 3, 0, 0, 0, 1, 7, 9],
        [0, 0, 0, 0, 0, 0, 0, 3, 0, 0, 0, 2, 8]] = ([⟨9, 3, [7]⟩], some err) ∧
      Distinguished twoFrames 28 err := by
  obtain ⟨k, err, hwhole, hloop, hiff, -⟩ := @cut_distinguished_iff twoFrames
    [[9, 0, 0, 0, 0, 0, 0, 0, 3, 0, 0, 0, 1, 7, 9], [0, 0, 0, 0, 0, 0, 0, 3, 0, 0, 0, 2, 8]]
    (by decide) (by decide +kernel)
  obtain rfl : k = 1 := by
    have hone := (hwhole.2 1 (by decide)).1 (by decide +kernel)
    have htwo := mt (hwhole.2 2 (by decide)).2 (by decide +kernel)
    omega
  refine ⟨err, hloop 2 (by decide), hiff.2 ?_⟩
  show ¬ BehindHeader (⟨9, 3, [7]⟩ :: [⟨9, 3, [8, 9]⟩]) ((encodeFrame ⟨9, 3, [7]⟩).length + 14)
  rw [behindHeader_cons_add, behindHeader_cons_of_lt (by decide)]
  decide

/-- A frame that is cut behind its header ends like a connection that was closed. -/
theorem header_not_distinguished :
    ([[9, 0, 0, 0, 0, 0, 0, 0, 3, 0, 0, 0, 1]] : List Bytes).flatten <+:
        (sendFrames .ideal [] [⟨9, 3, [7]⟩]).1 ∧
      ¬ AtBoundary [⟨9, 3, [7]⟩] 13 ∧
      receiveUntil 1 [[9, 0, 0, 0, 0, 0, 0, 0, 3, 0, 0, 0, 1]] = ([], some .eof) ∧
      shutdownErr .eof = .closed := by
  refine ⟨by decide +kernel, ?_, by decide +kernel, by decide⟩
  rw [atBoundary_cons_of_lt (by decide)]
  decide

end LnProxy.Protocol
