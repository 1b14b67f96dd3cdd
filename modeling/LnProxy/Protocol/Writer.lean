import LnProxy.Lib.Pipe
import LnProxy.Lib.Transition
import LnProxy.Session.Truncation

set_option autoImplicit false

/-! # Concurrent writers (`protocol.Writer`)

`Writer.Write` puts a frame on the connection by two writes, one of the header and one of the payload,
under a mutex. Any number of goroutines call it: the read loop, the handlers, the relays and the
heartbeat loop of one session. A write of the connection takes all of its bytes, or fails when it has
taken some of them; a connection on which a write has failed takes nothing more, as those of TLS and
QUIC do.

What is on the connection is, at any time, a sequence of whole frames and at most the beginning of one
more. The session models, in which a frame is written in one step, rest on this. -/

namespace LnProxy.Protocol

open Transition

/-! ## The calls -/

inductive Stage where
  /-- Before `w.mu.Lock()`. -/
  | waiting
  /-- In `WriteFrame`: what it has written, the argument of the next `w.Write`, and those behind it. -/
  | writing (written chunk : Bytes) (rest : List Bytes)
  /-- `WriteFrame` has returned, and `w.mu.Unlock()` is to come. -/
  | unlocking (err : Option Err)
  | returned (err : Option Err)
  deriving DecidableEq, Repr

namespace Stage

/-- The goroutine holds the mutex. -/
def inside : Stage → Bool
  | .writing _ _ _ => true
  | .unlocking _ => true
  | _ => false

/-- What `WriteFrame` has returned. -/
def result : Stage → Option (Option Err)
  | .unlocking err => some err
  | .returned err => some err
  | _ => none

/-- The part of the frame that is written. -/
def written : Stage → Bytes
  | .writing written _ _ => written
  | _ => []

end Stage

structure WriteCall where
  frame : Frame
  stage : Stage
  deriving DecidableEq, Repr

/-- A writer, its connection and the calls of `Write`. -/
structure Writer where
  pipe : Pipe UInt8
  mutex : Option Nat
  calls : List WriteCall
  /-- *History*: the calls whose frame is wholly on the connection, in that order. -/
  sent : List (Nat × Frame)

namespace Writer

def new : Writer := ⟨.empty, none, [], []⟩

inductive Label where
  | call (frame : Frame)
  | lock (c : Nat)
  /-- A write of the connection. It fails when it has taken the given number of bytes, or takes them
      all. -/
  | write (c : Nat) (failure : Option (Nat × Err))
  | unlock (c : Nat)

def goto (s : Writer) (c : Nat) (call : WriteCall) (stage : Stage) : Writer :=
  { s with calls := s.calls.set c { call with stage := stage } }

/-- `WriteFrame` up to its first write. The payload is written if there is one. -/
def enter (frame : Frame) : Stage :=
  if maxFrameSize < frame.payload.length then .unlocking (some (.frameSize frame.payload.length))
  else .writing [] (encodeHeader frame) (if frame.payload.length = 0 then [] else [frame.payload])

/-- `WriteFrame` after a write that has returned no error. -/
def advance (written chunk : Bytes) : List Bytes → Stage
  | [] => .unlocking none
  | next :: rest => .writing (written ++ chunk) next rest

/-- The frame is on the connection with the last one of its writes. -/
def completed (c : Nat) (frame : Frame) (rest : List Bytes) : List (Nat × Frame) :=
  if rest = [] then [(c, frame)] else []

def write (s : Writer) (c : Nat) (call : WriteCall) (written chunk : Bytes) (rest : List Bytes) :
    Option (Nat × Err) → Option Writer
  | none =>
    if s.pipe.torn then none
    else some ({ s with
      pipe := s.pipe.push chunk,
      sent := s.sent ++ completed c call.frame rest }.goto c call (advance written chunk rest))
  | some (n, err) =>
    if s.pipe.torn then some (s.goto c call (.unlocking (some err)))
    else if n ≤ chunk.length then some ({ s with
      pipe := s.pipe.cut chunk n,
      sent := s.sent ++ if n = chunk.length then completed c call.frame rest else []
      }.goto c call (.unlocking (some err)))
    else none

def step (s : Writer) : Label → Option Writer
  | .call frame => some { s with calls := s.calls ++ [⟨frame, .waiting⟩] }
  | .lock c => (s.calls[c]?).bind fun call =>
    if call.stage = .waiting ∧ s.mutex = none then
      some ({ s with mutex := some c }.goto c call (enter call.frame))
    else none
  | .write c failure => (s.calls[c]?).bind fun call =>
    match call.stage with
    | .writing written chunk rest => s.write c call written chunk rest failure
    | _ => none
  | .unlock c => (s.calls[c]?).bind fun call =>
    match call.stage with
    | .unlocking err => some ({ s with mutex := none }.goto c call (.returned err))
    | _ => none

/-! ## The writes of a frame -/

/-- The beginning of a frame, but not all of it. -/
def Begins (bytes : Bytes) : Prop :=
  ∃ f : Frame, f.fits ∧ bytes <+: encodeFrame f ∧ bytes ≠ encodeFrame f

theorem nil_begins : Begins [] :=
  ⟨⟨0, 0, []⟩, by decide, List.nil_prefix, by simp [encodeFrame, encodeHeader]⟩

/-- The writes to come make the frame whole, and each of them has something to write. -/
structure Remains (f : Frame) (written chunk : Bytes) (rest : List Bytes) : Prop where
  fits : f.fits
  whole : written ++ (chunk ++ rest.flatten) = encodeFrame f
  chunk : chunk ≠ []
  rest : ∀ piece ∈ rest, piece ≠ []

variable {f : Frame} {written chunk : Bytes} {rest : List Bytes}

theorem remains_enter (hfits : f.fits) :
    ∃ chunk rest, enter f = .writing [] chunk rest ∧ Remains f [] chunk rest := by
  refine ⟨_, _, if_neg (Nat.not_lt.2 hfits), hfits, ?_, by simp [encodeHeader], ?_⟩
  · by_cases hpayload : f.payload = [] <;> simp [hpayload, encodeFrame]
  · by_cases hpayload : f.payload = [] <;> simp [hpayload]

theorem Remains.advance {next : Bytes} (h : Remains f written chunk (next :: rest)) :
    Remains f (written ++ chunk) next rest where
  fits := h.fits
  whole := by rw [← h.whole, List.flatten_cons, List.append_assoc]
  chunk := h.rest next (List.mem_cons_self ..)
  rest piece hmem := h.rest piece (List.mem_cons_of_mem _ hmem)

/-- A write that is cut, or is not the last one, leaves the beginning of the frame. -/
theorem Remains.begins {n : Nat} (h : Remains f written chunk rest) (hn : n ≤ chunk.length)
    (hmore : n = chunk.length → rest ≠ []) : Begins (written ++ chunk.take n) := by
  refine ⟨f, h.fits, ?_, fun heq => ?_⟩
  · rw [← h.whole, List.prefix_append_right_inj]
    exact (List.take_prefix n chunk).trans (List.prefix_append ..)
  · rw [← h.whole] at heq
    have hlength := congrArg List.length (List.append_cancel_left heq)
    rw [List.length_take, Nat.min_eq_left hn, List.length_append] at hlength
    obtain ⟨piece, hmem⟩ := List.exists_mem_of_ne_nil rest (hmore (by omega))
    exact h.rest piece hmem (List.flatten_eq_nil_iff.1 (List.length_eq_zero_iff.1 (by omega)) piece hmem)

/-! ## The invariant -/

variable {s s' : Writer} {l : Label} {c d : Nat} {call other : WriteCall}

/-- The frames that are wholly on the connection. -/
def frames (s : Writer) : List Frame := s.sent.map Prod.snd

/-- The part of a frame that its writer has put behind them. -/
def partly (s : Writer) : Bytes := (s.mutex.bind (s.calls[·]?)).elim [] fun call => call.stage.written

structure Sound (s : Writer) (c : Nat) (call : WriteCall) : Prop where
  inside : call.stage.inside = true → s.mutex = some c
  remains : ∀ written chunk rest, call.stage = .writing written chunk rest →
    Remains call.frame written chunk rest
  done : call.stage.result = some none → (c, call.frame) ∈ s.sent
  refused : s.pipe.torn = false → ∀ err, call.stage.result = some (some err) →
    err = .frameSize call.frame.payload.length ∧ ¬ call.frame.fits

/-- The frame is that of a call in which it was written. -/
structure Recorded (s : Writer) (c : Nat) (f : Frame) : Prop where
  fits : f.fits
  call : ∃ call, s.calls[c]? = some call ∧ call.frame = f ∧ call.stage.result ≠ none

structure Inv (s : Writer) : Prop where
  calls : ∀ c call, s.calls[c]? = some call → Sound s c call
  holder : ∀ c, s.mutex = some c → ∃ call, s.calls[c]? = some call
  sent : ∀ c f, (c, f) ∈ s.sent → Recorded s c f
  once : (s.sent.map Prod.fst).Nodup
  /-- Whole frames, and the beginning of one more: on a connection that works, what its writer has
      written of it. -/
  bytes : ∃ tail, s.pipe.bytes = s.frames.flatMap encodeFrame ++ tail ∧ Begins tail ∧
    (s.pipe.torn = false → tail = s.partly)

theorem new_inv : Inv new where
  calls _ _ h := by cases h
  holder _ h := by cases h
  sent _ _ h := by cases h
  once := List.nodup_nil
  bytes := ⟨[], rfl, nil_begins, fun _ => rfl⟩

theorem goto_self {stage : Stage} (hcall : s.calls[c]? = some call) :
    (s.goto c call stage).calls[c]? = some { call with stage := stage } := by
  rw [goto, List.getElem?_set_self (List.getElem?_eq_some_iff.1 hcall).1]

theorem goto_of_ne {stage : Stage} (hd : d ≠ c) :
    (s.goto c call stage).calls[d]? = s.calls[d]? := by
  rw [goto, List.getElem?_set_ne (Ne.symm hd)]

/-- The frames written, when a call moves to `stage`. -/
inductive Grows (s : Writer) (c : Nat) (call : WriteCall) (stage : Stage) : List (Nat × Frame) → Prop where
  | same (hresult : call.stage.result = none ∨ stage.result ≠ none) : Grows s c call stage s.sent
  | more (hfits : call.frame.fits) (hnone : call.stage.result = none) (hover : stage.result ≠ none) :
      Grows s c call stage (s.sent ++ [(c, call.frame)])

variable {pipe : Pipe UInt8} {mutex : Option Nat} {sent : List (Nat × Frame)} {stage : Stage}

theorem Grows.prefix (h : Grows s c call stage sent) : s.sent <+: sent := by
  cases h with
  | same _ => exact List.prefix_rfl
  | more _ _ _ => exact List.prefix_append ..

theorem Grows.nodup (h : Grows s c call stage sent) (hinv : Inv s) (hcall : s.calls[c]? = some call) :
    (sent.map Prod.fst).Nodup := by
  cases h with
  | same _ => exact hinv.once
  | more _ hnone _ =>
    rw [List.map_append, List.map_singleton, List.nodup_append]
    refine ⟨hinv.once, by simp, fun a ha b hb hab => ?_⟩
    rw [hab, List.mem_singleton.1 hb] at ha
    -- its frame would be among those written before
    obtain ⟨⟨d, f⟩, hmem, rfl⟩ := List.mem_map.1 ha
    obtain ⟨call', hcall', -, hover⟩ := (hinv.sent d f hmem).call
    rw [hcall] at hcall'
    cases hcall'
    exact hover hnone

theorem Recorded.goto (h : Recorded s d f) (hcall : s.calls[c]? = some call)
    (hresult : call.stage.result = none ∨ stage.result ≠ none) :
    Recorded (s.goto c call stage) d f := by
  obtain ⟨hfits, call', hcall', hframe, hover⟩ := h
  by_cases hd : d = c
  · subst hd
    obtain rfl : call = call' := Option.some.inj (hcall.symm.trans hcall')
    exact ⟨hfits, _, goto_self hcall, hframe, hresult.resolve_left hover⟩
  · exact ⟨hfits, call', by rw [goto_of_ne hd, hcall'], hframe, hover⟩

theorem Grows.recorded (h : Grows s c call stage sent) (hinv : Inv s) (hcall : s.calls[c]? = some call)
    (hmem : (d, f) ∈ sent) : Recorded (s.goto c call stage) d f := by
  cases h with
  | same hresult => exact (hinv.sent d f hmem).goto hcall hresult
  | more hfits hnone hover =>
    rw [List.mem_append, List.mem_singleton] at hmem
    rcases hmem with hmem | heq
    · exact (hinv.sent d f hmem).goto hcall (Or.inl hnone)
    · cases heq
      exact ⟨hfits, _, goto_self hcall, rfl, hover⟩

/-- **One goroutine moves**: what a step has to show for the call it is about and for the bytes. The
    others are outside the mutex; they see only that frames are written, or that the connection
    fails. -/
theorem Inv.goto (hinv : Inv s) (hcall : s.calls[c]? = some call)
    (honly : ∀ d, s.mutex = some d → d = c) (hmutex : mutex = some c ∨ mutex = none)
    (hgrows : Grows s c call stage sent) (htorn : pipe.torn = false → s.pipe.torn = false)
    (hsound : Sound ⟨pipe, mutex, s.calls, sent⟩ c { call with stage := stage })
    (hbytes : ∃ tail, pipe.bytes = (sent.map Prod.snd).flatMap encodeFrame ++ tail ∧ Begins tail ∧
      (pipe.torn = false → tail = if mutex = some c then stage.written else [])) :
    Inv (({ s with pipe := pipe, mutex := mutex, sent := sent } : Writer).goto c call stage) where
  calls d other hother := by
    by_cases hd : d = c
    · subst hd
      rw [goto_self (s := ⟨pipe, mutex, s.calls, sent⟩) hcall] at hother
      cases hother
      exact ⟨hsound.inside, hsound.remains, hsound.done, hsound.refused⟩
    · rw [goto_of_ne hd] at hother
      have hold := hinv.calls d other hother
      have hout : other.stage.inside = true → False := fun hinside => hd (honly d (hold.inside hinside))
      refine ⟨fun hinside => (hout hinside).elim, fun written chunk rest hstage => ?_, fun hresult => ?_,
        fun hwhole => hold.refused (htorn hwhole)⟩
      · exact (hout (by rw [hstage]; rfl)).elim
      · exact hgrows.prefix.subset (hold.done hresult)
  holder d hd := by
    rcases hmutex with rfl | rfl
    · cases hd
      exact ⟨_, goto_self hcall⟩
    · cases hd
  sent d f hmem := by
    obtain ⟨hfits, hrest⟩ := hgrows.recorded hinv hcall hmem
    exact ⟨hfits, hrest⟩
  once := hgrows.nodup hinv hcall
  bytes := by
    obtain ⟨tail, heq, hbegins, htail⟩ := hbytes
    refine ⟨tail, heq, hbegins, fun hwhole => (htail hwhole).trans ?_⟩
    rcases hmutex with rfl | rfl
    · rw [if_pos rfl, partly, Writer.goto, Option.bind_some,
        List.getElem?_set_self (List.getElem?_eq_some_iff.1 hcall).1]
      rfl
    · rw [if_neg (by simp)]
      rfl

/-- A call to which `WriteFrame` has returned an error. -/
theorem sound_failed {err : Err} {m : Writer} (hmutex : m.mutex = some c)
    (hrefused : m.pipe.torn = false →
      err = .frameSize call.frame.payload.length ∧ ¬ call.frame.fits) :
    Sound m c { call with stage := .unlocking (some err) } where
  inside _ := hmutex
  remains _ _ _ hstage := by cases hstage
  done hresult := by cases hresult
  refused hwhole _ hresult := by
    cases hresult
    exact hrefused hwhole

theorem partly_eq (hmutex : s.mutex = some c) (hcall : s.calls[c]? = some call) :
    s.partly = call.stage.written := by
  rw [partly, hmutex, Option.bind_some, hcall]
  rfl

theorem Inv.called (hinv : Inv s) (frame : Frame) :
    Inv { s with calls := s.calls ++ [⟨frame, .waiting⟩] } := by
  have hold : ∀ (d : Nat) (other : WriteCall), s.calls[d]? = some other →
      (s.calls ++ [(⟨frame, .waiting⟩ : WriteCall)])[d]? = some other := by
    intro d other hother
    rw [List.getElem?_append_left (List.getElem?_eq_some_iff.1 hother).1, hother]
  refine ⟨fun d other hother => ?_, fun d hd => ?_, fun d f hmem => ?_, hinv.once, ?_⟩
  · rw [List.getElem?_append] at hother
    split at hother
    · obtain ⟨hinside, hremains, hdone, hrefused⟩ := hinv.calls d other hother
      exact ⟨hinside, hremains, hdone, hrefused⟩
    · obtain rfl := List.mem_singleton.1 (List.mem_of_getElem? hother)
      exact ⟨by simp [Stage.inside], by simp, by simp [Stage.result], by simp [Stage.result]⟩
  · obtain ⟨call, hcall⟩ := hinv.holder d hd
    exact ⟨call, hold d call hcall⟩
  · obtain ⟨hfits, call, hcall, hframe, hover⟩ := hinv.sent d f hmem
    exact ⟨hfits, call, hold d call hcall, hframe, hover⟩
  · obtain ⟨tail, heq, hbegins, htail⟩ := hinv.bytes
    refine ⟨tail, heq, hbegins, fun hwhole => (htail hwhole).trans ?_⟩
    cases hmutex : s.mutex with
    | none => rw [partly, partly, hmutex]; rfl
    | some d =>
      obtain ⟨call, hcall⟩ := hinv.holder d hmutex
      exact (partly_eq hmutex hcall).trans (partly_eq rfl (hold d call hcall)).symm

theorem Inv.lock (hinv : Inv s) (hcall : s.calls[c]? = some call) (hstage : call.stage = .waiting)
    (hfree : s.mutex = none) : Inv ({ s with mutex := some c }.goto c call (enter call.frame)) := by
  obtain ⟨tail, heq, hbegins, htail⟩ := hinv.bytes
  have hnone : s.pipe.torn = false → tail = [] := fun hwhole => by rw [htail hwhole, partly, hfree]; rfl
  have honly : ∀ d, s.mutex = some d → d = c := fun d hd => absurd (hfree.symm.trans hd) (by simp)
  have hgrows : ∀ stage, Grows s c call stage s.sent := fun _ => .same (Or.inl (by rw [hstage]; rfl))
  by_cases hfits : call.frame.fits
  · obtain ⟨chunk, rest, henter, hremains⟩ := remains_enter hfits
    rw [henter]
    refine hinv.goto hcall honly (Or.inl rfl) (hgrows _) id ⟨fun _ => rfl, fun _ _ _ heq => ?_,
      by simp [Stage.result], by simp [Stage.result]⟩ ⟨tail, heq, hbegins, fun hwhole => ?_⟩
    · cases heq
      exact hremains
    · rw [hnone hwhole, if_pos rfl]
      rfl
  · rw [enter, if_pos (Nat.not_le.1 hfits)]
    refine hinv.goto hcall honly (Or.inl rfl) (hgrows _) id (sound_failed rfl fun _ => ⟨rfl, hfits⟩)
      ⟨tail, heq, hbegins, fun hwhole => ?_⟩
    rw [hnone hwhole, if_pos rfl]
    rfl

theorem Inv.unlock {err : Option Err} (hinv : Inv s) (hcall : s.calls[c]? = some call)
    (hstage : call.stage = .unlocking err) :
    Inv ({ s with mutex := none }.goto c call (.returned err)) := by
  have hsound := hinv.calls c call hcall
  have hmutex := hsound.inside (by rw [hstage]; rfl)
  have hresult : call.stage.result = some err := by rw [hstage]; rfl
  obtain ⟨tail, heq, hbegins, htail⟩ := hinv.bytes
  refine hinv.goto hcall (fun d hd => Option.some.inj (hd.symm.trans hmutex)) (Or.inr rfl)
    (.same (Or.inr (by simp [Stage.result]))) id ⟨by simp [Stage.inside], by simp, fun hdone => ?_,
    fun hwhole e herr => ?_⟩ ⟨tail, heq, hbegins, fun hwhole => ?_⟩
  · exact hsound.done (hresult.trans hdone)
  · exact hsound.refused hwhole e (hresult.trans herr)
  · rw [htail hwhole, partly_eq hmutex hcall, hstage, if_neg (by simp)]
    rfl

theorem Inv.write {failure : Option (Nat × Err)} (hinv : Inv s) (hcall : s.calls[c]? = some call)
    (hstage : call.stage = .writing written chunk rest)
    (h : s.write c call written chunk rest failure = some s') : Inv s' ∧ s.sent <+: s'.sent := by
  have hsound := hinv.calls c call hcall
  have hremains := hsound.remains _ _ _ hstage
  have hmutex := hsound.inside (by rw [hstage]; rfl)
  have honly : ∀ d, s.mutex = some d → d = c := fun d hd => Option.some.inj (hd.symm.trans hmutex)
  have hnone : call.stage.result = none := by rw [hstage]; rfl
  obtain ⟨tail, heq, hbegins, htail⟩ := hinv.bytes
  rw [partly_eq hmutex hcall, hstage] at htail
  -- the frame is whole when the last one of its writes is
  have hlast : rest = [] → s.pipe.torn = false →
      s.pipe.bytes ++ chunk = ((s.sent ++ [(c, call.frame)]).map Prod.snd).flatMap encodeFrame ++ [] := by
    rintro rfl hwhole
    have := hremains.whole
    rw [heq, htail hwhole, List.append_assoc, Stage.written, ← List.append_nil chunk]
    simpa [frames] using this
  cases failure with
  | none =>
    obtain ⟨hwhole, h⟩ := Option.ite_none_left_eq_some.1 h
    have hwhole := Bool.eq_false_of_not_eq_true hwhole
    cases h
    cases rest with
    | nil =>
      have hgrows : Grows s c call (.unlocking none) (s.sent ++ [(c, call.frame)]) :=
        .more hremains.fits hnone (by simp [Stage.result])
      rw [completed, if_pos rfl, advance]
      refine ⟨hinv.goto hcall honly (Or.inl hmutex) hgrows (fun _ => hwhole) ⟨fun _ => hmutex,
        by simp, fun _ => by simp, by simp [Stage.result]⟩ ?_, hgrows.prefix⟩
      exact ⟨[], hlast rfl hwhole, nil_begins, fun _ => by simp [Stage.written]⟩
    | cons next rest =>
      rw [completed, if_neg (by simp), List.append_nil]
      refine ⟨hinv.goto hcall honly (Or.inl hmutex) (.same (Or.inl hnone)) (fun _ => hwhole)
        ⟨fun _ => hmutex, fun _ _ _ hnext => ?_, by simp [advance, Stage.result],
          by simp [advance, Stage.result]⟩ ⟨written ++ chunk, ?_, ?_, fun _ => ?_⟩,
        List.prefix_rfl⟩
      · cases hnext
        exact hremains.advance
      · rw [Pipe.push, heq, htail hwhole, List.append_assoc]
        rfl
      · simpa using hremains.begins (Nat.le_refl _) (by simp)
      · rw [if_pos hmutex]
        rfl
  | some failure =>
    obtain ⟨n, err⟩ := failure
    simp only [Writer.write] at h
    split at h
    · next htorn =>
      cases h
      have hbroken : ∀ {P : Prop}, s.pipe.torn = false → P :=
        fun hwhole => absurd (hwhole.symm.trans htorn) (by simp)
      exact ⟨hinv.goto hcall honly (Or.inl hmutex) (.same (Or.inl hnone)) id
        (sound_failed hmutex hbroken) ⟨tail, heq, hbegins, hbroken⟩, List.prefix_rfl⟩
    · next hwhole =>
      have hwhole := Bool.eq_false_of_not_eq_true hwhole
      obtain ⟨hn, rfl⟩ := eq_of_ite_some h
      have hcut : ∀ {P : Prop}, (s.pipe.cut chunk n).torn = false → P := fun htorn => by cases htorn
      by_cases hall : n = chunk.length ∧ rest = []
      · have hgrows : Grows s c call (.unlocking (some err)) (s.sent ++ [(c, call.frame)]) :=
          .more hremains.fits hnone (by simp [Stage.result])
        rw [if_pos hall.1, completed, if_pos hall.2]
        refine ⟨hinv.goto hcall honly (Or.inl hmutex) hgrows hcut (sound_failed hmutex hcut)
          ⟨[], ?_, nil_begins, hcut⟩, hgrows.prefix⟩
        rw [Pipe.cut, hall.1, List.take_length]
        exact hlast hall.2 hwhole
      · have hsame : (if n = chunk.length then completed c call.frame rest else []) = [] := by
          split
          · next hlen => exact if_neg fun hnil => hall ⟨hlen, hnil⟩
          · rfl
        rw [hsame, List.append_nil]
        refine ⟨hinv.goto hcall honly (Or.inl hmutex) (.same (Or.inl hnone)) hcut
          (sound_failed hmutex hcut) ⟨written ++ chunk.take n, ?_, ?_, hcut⟩, List.prefix_rfl⟩
        · rw [Pipe.cut, heq, htail hwhole, List.append_assoc]
          rfl
        · exact hremains.begins hn fun hlen hnil => hall ⟨hlen, hnil⟩

/-- **A step keeps the invariant**, and the order of the frames only grows at its end. -/
theorem Inv.step (hinv : Inv s) (h : step s l = some s') : Inv s' ∧ s.sent <+: s'.sent := by
  cases l with
  | call frame =>
    cases h
    exact ⟨hinv.called frame, List.prefix_rfl⟩
  | lock c =>
    obtain ⟨call, hcall, h⟩ := Option.bind_eq_some_iff.1 h
    obtain ⟨hguard, rfl⟩ := eq_of_ite_some h
    exact ⟨hinv.lock hcall hguard.1 hguard.2, List.prefix_rfl⟩
  | write c failure =>
    obtain ⟨call, hcall, h⟩ := Option.bind_eq_some_iff.1 h
    split at h
    · next hstage => exact hinv.write hcall hstage h
    · cases h
  | unlock c =>
    obtain ⟨call, hcall, h⟩ := Option.bind_eq_some_iff.1 h
    split at h
    · next err hstage =>
      cases h
      exact ⟨hinv.unlock hcall hstage, List.prefix_rfl⟩
    · cases h

/-! ## What the peer reads -/

/-- Whole frames, and then at most the beginning of one more. -/
theorem receiveUntil_tail {fs : List Frame} {tail : Bytes} {src : List Bytes}
    (hfits : ∀ f ∈ fs, f.fits) (hsrc : src.flatten = fs.flatMap encodeFrame ++ tail)
    (htail : Begins tail) :
    ∃ err, (err = .eof ∨ err = .unexpectedEOF) ∧
      ∀ rounds, fs.length < rounds → receiveUntil rounds src = (fs, some err) := by
  induction fs generalizing src with
  | nil =>
    obtain ⟨f, hf, hpart, hproper⟩ := htail
    have hlt : tail.length < (encodeFrame f).length :=
      Nat.lt_of_le_of_ne hpart.length_le fun hlength => hproper (hpart.eq_of_length hlength)
    rw [List.flatMap_nil, List.nil_append] at hsrc
    obtain ⟨err, herr, hread⟩ : ∃ err, (err = .eof ∨ err = .unexpectedEOF) ∧
        receiveFrame src = .error err := by
      refine ⟨_, ?_, joined_eq_error
        ((receiveFrame_flatten src).trans (hsrc ▸ readFrame_cut hf hpart hlt))⟩
      split
      · exact Or.inl rfl
      · exact Or.inr rfl
    refine ⟨err, herr, fun rounds hrounds => ?_⟩
    obtain ⟨rounds, rfl⟩ := Nat.exists_eq_add_one_of_ne_zero (Nat.ne_of_gt hrounds)
    rw [receiveUntil, hread]
  | cons f fs ih =>
    rw [List.flatMap_cons, List.append_assoc] at hsrc
    obtain ⟨src', hread, hsrc'⟩ := receiveFrame_encodeFrame (hfits f (List.mem_cons_self ..)) hsrc
    obtain ⟨err, herr, hloop⟩ := ih (fun g hg => hfits g (List.mem_cons_of_mem _ hg)) hsrc'
    refine ⟨err, herr, fun rounds hrounds => ?_⟩
    obtain ⟨rounds, rfl⟩ := Nat.exists_eq_add_one_of_ne_zero (Nat.ne_zero_of_lt hrounds)
    rw [receiveUntil, hread]
    simp only [hloop rounds (by simpa using hrounds)]

/-- What `Write` guarantees to its callers and to the peer. -/
structure Delivers (s : Writer) : Prop where
  /-- A call writes its frame once. -/
  once : (s.sent.map Prod.fst).Nodup
  sent : ∀ c f, (c, f) ∈ s.sent →
    ∃ call, s.calls[c]? = some call ∧ call.frame = f ∧ call.stage.result ≠ none
  /-- A call that has returned no error has written its frame. -/
  returned : ∀ (c : Nat) call, s.calls[c]? = some call → call.stage = .returned none →
    (c, call.frame) ∈ s.sent
  /-- While the connection works, `Write` fails only for a frame that is too large. -/
  refused : s.pipe.torn = false → ∀ (c : Nat) call err, s.calls[c]? = some call →
    call.stage = .returned (some err) → err = .frameSize call.frame.payload.length ∧ ¬ call.frame.fits
  /-- In whatever pieces the bytes arrive, the peer reads these frames and nothing else. -/
  received : ∀ src : List Bytes, src.flatten = s.pipe.bytes →
    ∃ err, (err = .eof ∨ err = .unexpectedEOF) ∧
      ∀ rounds, s.sent.length < rounds → receiveUntil rounds src = (s.sent.map Prod.snd, some err)

theorem Inv.delivers (hinv : Inv s) : Delivers s where
  once := hinv.once
  sent c f hmem := (hinv.sent c f hmem).call
  returned c call hcall hstage := (hinv.calls c call hcall).done (by rw [hstage]; rfl)
  refused hwhole c call err hcall hstage :=
    (hinv.calls c call hcall).refused hwhole err (by rw [hstage]; rfl)
  received src hsrc := by
    obtain ⟨tail, hbytes, htail, -⟩ := hinv.bytes
    have hfits : ∀ f ∈ s.frames, f.fits := by
      intro f hf
      obtain ⟨⟨c, f⟩, hmem, rfl⟩ := List.mem_map.1 hf
      exact (hinv.sent c f hmem).fits
    have hlength : s.frames.length = s.sent.length := List.length_map ..
    rw [← hlength]
    exact receiveUntil_tail hfits (hsrc.trans hbytes) htail

/-- **Frames are written whole and in one order.** In any run of any number of concurrent calls of
    `Write`, over a connection that may fail in any write: the bytes on the connection are those of the
    frames in `sent`, in this order, with at most the beginning of one more behind them. The order only
    grows at its end, and a frame is in it only when its call has begun; so a call that begins when
    another one has returned has its frame behind the other's. -/
theorem writes_atomic {as as' : List Label} (hrun : exec step new as = some s)
    (hrun' : exec step s as' = some s') :
    Delivers s' ∧ s.sent <+: s'.sent ∧ ∀ c f, (c, f) ∈ s.sent → c < s.calls.length := by
  have hinv : Inv s := Reachable.invariant Inv (fun _ _ _ hm hstep => (hm.step hstep).1) new_inv
    ⟨as, hrun⟩
  have hlater := Reachable.invariant (fun m : Writer => Inv m ∧ s.sent <+: m.sent)
    (fun _ _ _ hm hstep => ⟨(hm.1.step hstep).1, hm.2.trans (hm.1.step hstep).2⟩)
    ⟨hinv, List.prefix_rfl⟩ ⟨as', hrun'⟩
  refine ⟨hlater.1.delivers, hlater.2, fun c f hmem => ?_⟩
  obtain ⟨call, hcall, -⟩ := (hinv.sent c f hmem).call
  exact (List.getElem?_eq_some_iff.1 hcall).1

/-- Two goroutines write; the second one waits for the first. -/
def twoWriters : List Label :=
  [.call ⟨9, 1, [7]⟩, .call ⟨9, 2, [8, 9]⟩, .lock 1, .write 1 none, .write 1 none, .unlock 1]

/-- Then the connection fails inside the payload of the first one, and a third call fails at once. -/
def connectionLost : List Label :=
  [.lock 0, .write 0 none, .call ⟨10, 1, []⟩, .write 0 (some (0, .transport "reset")), .unlock 0,
    .lock 2, .write 2 (some (0, .transport "reset")), .unlock 2]

theorem connectionLost_received :
    ∃ s s', exec step new twoWriters = some s ∧ exec step s connectionLost = some s' ∧
      s'.pipe.torn = true ∧ s'.calls.map WriteCall.stage =
        [.returned (some (.transport "reset")), .returned none, .returned (some (.transport "reset"))] ∧
      ∃ err, receiveUntil 5 [s'.pipe.bytes] = ([⟨9, 2, [8, 9]⟩], some err) := by
  have hrun : exec step new twoWriters = some (after step new twoWriters) :=
    exec_after (by decide +kernel)
  have hrun' : exec step (after step new twoWriters) connectionLost =
      some (after step (after step new twoWriters) connectionLost) := exec_after (by decide +kernel)
  obtain ⟨err, -, hread⟩ :=
    (writes_atomic hrun hrun').1.received [_] (List.flatten_singleton ..)
  have hsent : (after step (after step new twoWriters) connectionLost).sent =
      [(1, ⟨9, 2, [8, 9]⟩)] := by decide +kernel
  refine ⟨_, _, hrun, hrun', by decide +kernel, by decide +kernel, err, ?_⟩
  rw [hread 5 (by rw [hsent]; decide), hsent]
  rfl

end Writer

end LnProxy.Protocol
