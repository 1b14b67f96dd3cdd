import LnProxy.Lib.Deferred
import LnProxy.Lib.Transition
import LnProxy.Session.Cases

set_option autoImplicit false

/-! # Who closes the channels of a session (`remoteClose`, `forceClose`, `shutdown`)

Closing a closed channel panics. `remoteClose` claims the close of `reads` under the lock and closes
the channel after it; `forceClose` closes `reads` under the same lock and `done` after it, inside a
`sync.Once`; `shutdown` closes the session's `done` under the session's lock, inside another. Here any
number of goroutines call the three, at any time and on any stream, and the sections of the calls are
those of the session model, in any order. Both split closes are `Deferred` operations.

`Closing` records two histories beside the session: the channels `close` was called on, and the
streams a call of `forceClose` has returned for. -/

namespace LnProxy

open Protocol Transition

/-- The channels the three functions close. -/
inductive Channel where
  /-- `stream.reads` -/
  | reads (r : Ref)
  /-- `stream.done` -/
  | done (r : Ref)
  /-- `session.done` -/
  | session
  deriving DecidableEq, Repr

namespace Session

def isClosed (s : Session) : Channel → Bool
  | .reads r => (s.obj r).reads.closed
  | .done r => (s.obj r).done
  | .session => s.done

/-- The channel a section calls `close` on. -/
def closes (s : Session) : Act → Option Channel
  | .closeReads r => some (.reads r)
  | .forceClose r _ =>
    if (s.obj r).closeOnce = .idle ∧ (s.obj r).remoteEOF = false then some (.reads r) else none
  | .closeDone r => some (.done r)
  | .shutdown _ => if s.close = .idle then some .session else none
  | _ => none

/-- The stream for which a section ends a call of `forceClose`: the function has run, or it had run
    before the call. -/
def returns (s : Session) : Act → Option Ref
  | .closeDone r => some r
  | .forceClose r _ => if (s.obj r).closeOnce = .finished then some r else none
  | _ => none

end Session

/-- A call of one of the three functions. -/
inductive CloseCall where
  | remoteClose (r : Ref)
  | forceClose (r : Ref) (err : Err)
  | shutdown (err : Err)
  deriving DecidableEq, Repr

def CloseCall.act : CloseCall → Act
  | .remoteClose r => .remoteClose r
  | .forceClose r err => .forceClose r err
  | .shutdown err => .shutdown err

/-- A session that is being closed. -/
structure Closing where
  session : Session
  /-- *History*: the channels closed, in order. -/
  closes : List Channel
  /-- *History*: the streams `forceClose` has returned for. -/
  returned : List Ref

namespace Closing

inductive Label where
  /-- A goroutine that does nothing calls one of the functions. -/
  | call (t : Tid) (call : CloseCall)
  /-- A goroutine runs its next section. -/
  | run (t : Tid) (c : Choice)
  deriving DecidableEq, Repr

def start (s : Session) : Closing := ⟨s, [], []⟩

def step (json : Codec) (x : Closing) : Label → Option Closing
  | .call t call =>
    if x.session.crashed = true ∨ x.session.threads t ≠ [] then none
    else some { x with session := x.session.goto t [call.act] }
  | .run t c =>
    match x.session.threads t with
    | [] => none
    | a :: _ => (x.session.step json (.run t c)).map fun s' =>
      ⟨s', x.closes ++ (x.session.closes a).toList, x.returned ++ (x.session.returns a).toList⟩

end Closing

/-! ## The sections of the three functions -/

/-- The sections `remoteClose`, `forceClose` and `shutdown` are made of. -/
def Act.ofClose : Act → Bool
  | .remoteClose _ | .closeReads _ | .forceClose _ _ | .removeStream _ | .closeDone _ | .shutdown _
  | .forceCloseAll _ _ => true
  | _ => false

namespace Session

variable {json : Codec} {s s₁ : Session} {t : Tid} {a : Act} {c : Choice} {k acts new : List Act}
  {r : Ref}

/-- What such a section does: the state becomes `s₁`, and its goroutine goes on with `new`. -/
inductive Closes (s : Session) : Act → List Act → Session → Prop where
  | remoteClose {r : Ref} (h : (s.obj r).remoteEOF = false) :
      Closes s (.remoteClose r) [.closeReads r] (s.modify r fun y => { y with remoteEOF := true })
  | remoteCloseAgain {r : Ref} : Closes s (.remoteClose r) [] s
  | closeReads {r : Ref} (h : (s.obj r).reads.closed = false) :
      Closes s (.closeReads r) [] (s.modify r fun y => { y with reads := y.reads.shut })
  | closeReadsPanic {r : Ref} (h : (s.obj r).reads.closed = true) :
      Closes s (.closeReads r) [.closeReads r] { s with crashed := true }
  | forceClose {r : Ref} {err : Err} (h : (s.obj r).closeOnce = .idle) :
      Closes s (.forceClose r err) [.removeStream r, .closeDone r]
        (s.modify r fun y => y.forceClose err)
  | forceCloseAgain {r : Ref} {err : Err} (h : (s.obj r).closeOnce = .finished) :
      Closes s (.forceClose r err) [] s
  | removeStream {r : Ref} : Closes s (.removeStream r) [] (s.forget r)
  | closeDone {r : Ref} :
      Closes s (.closeDone r) []
        (s.modify r fun y => { y with done := true, closeOnce := .finished })
  | shutdown {err : Err} (h : s.close = .idle) :
      Closes s (.shutdown err) [.forceCloseAll s.registered err]
        { s with closed := true, err := some err, done := true, close := .running }
  | shutdownAgain {err : Err} (h : s.close = .finished) : Closes s (.shutdown err) [] s
  | pick {rs : List Ref} {err : Err} {r : Ref} :
      Closes s (.forceCloseAll rs err) [.forceClose r err, .forceCloseAll (rs.erase r) err] s
  | shutdownEnd {err : Err} :
      Closes s (.forceCloseAll [] err) [] { s with close := .finished }

theorem Ran.toCloses (h : Ran json s t k a c s₁ acts) (ha : a.ofClose = true) :
    ∃ new, acts = new ++ k ∧ Closes s a new s₁ := by
  cases h with
  | moves h =>
    refine ⟨_, rfl, ?_⟩
    cases h with
    | remoteCloseAgain _ => exact .remoteCloseAgain
    | forceCloseAgain h => exact .forceCloseAgain h
    | shutdownAgain h => exact .shutdownAgain h
    | pick _ => exact .pick
    | _ => cases ha
  | remoteClose h => exact ⟨_, rfl, .remoteClose h⟩
  | closeReads h => exact ⟨[], rfl, .closeReads h⟩
  | closeReadsPanic h => exact ⟨[_], rfl, .closeReadsPanic h⟩
  | forceClose h => exact ⟨[_, _], rfl, .forceClose h⟩
  | removeStream => exact ⟨[], rfl, .removeStream⟩
  | closeDone => exact ⟨[], rfl, .closeDone⟩
  | shutdown h => exact ⟨[_], rfl, .shutdown h⟩
  | shutdownEnd => exact ⟨[], rfl, .shutdownEnd⟩
  | _ => cases ha

theorem Closes.threads_eq (h : Closes s a new s₁) : s₁.threads = s.threads := by
  cases h <;> rfl

/-- The functions call nothing but each other. -/
theorem Closes.ofClose (h : Closes s a new s₁) : ∀ b ∈ new, b.ofClose = true := by
  cases h <;> simp [Act.ofClose]

/-! ## One stream -/

/-- The flags of a stream agree with its channels and with the sections that are still to close
    them. -/
structure Orderly (s : Session) (r : Ref) : Prop where
  reads : Deferred s.threads (.closeReads r) (s.obj r).remoteEOF (s.obj r).reads.closed
  done : Deferred s.threads (.closeDone r) (s.obj r).closed (s.obj r).done
  idle : (s.obj r).closeOnce = .idle ↔ (s.obj r).closed = false
  finished : (s.obj r).closeOnce = .finished ↔ (s.obj r).done = true
  eof : (s.obj r).closed = true → (s.obj r).remoteEOF = true

/-- A section that touches neither the stream nor its closing sections. -/
theorem Orderly.frame (ho : s.Orderly r) (hthread : s.threads t = a :: k)
    (hthreads : s₁.threads = s.threads) (hobj : s₁.obj r = s.obj r)
    (hreads : .closeReads r ∉ a :: new) (hdone : .closeDone r ∉ a :: new) :
    (s₁.goto t (new ++ k)).Orderly r := by
  have hcount : ∀ b, b ∉ a :: new → (new ++ k).count b = (s.threads t).count b := by
    intro b hb
    rw [List.mem_cons, not_or] at hb
    rw [hthread, List.count_append, List.count_eq_zero.2 hb.2, List.count_cons_of_ne (Ne.symm hb.1),
      Nat.zero_add]
  refine ⟨?_, ?_, ?_, ?_, ?_⟩
  · rw [goto_obj, hobj, goto, hthreads]
    exact ho.reads.frame (hcount _ hreads)
  · rw [goto_obj, hobj, goto, hthreads]
    exact ho.done.frame (hcount _ hdone)
  · rw [goto_obj, hobj]
    exact ho.idle
  · rw [goto_obj, hobj]
    exact ho.finished
  · rw [goto_obj, hobj]
    exact ho.eof

theorem modify_obj_of_ne {f : Stream → Stream} {q : Ref} (h : r ≠ q) :
    (s.modify q f).obj r = s.obj r := by
  simp [modify, h]

@[simp] theorem modify_obj_self (s : Session) (f : Stream → Stream) (r : Ref) :
    (s.modify r f).obj r = f (s.obj r) := by
  simp [modify]

theorem Orderly.remoteClose (ho : s.Orderly r) (hthread : s.threads t = .remoteClose r :: k)
    (heof : (s.obj r).remoteEOF = false) :
    ((s.modify r fun y => { y with remoteEOF := true }).goto t ([.closeReads r] ++ k)).Orderly r := by
  have hreads := ho.reads
  rw [heof] at hreads
  refine ⟨?_, ?_, ?_, ?_, ?_⟩ <;> rw [goto_obj, modify_obj_self]
  · rw [hreads.done_eq_false]
    exact hreads.claim (by simp [hthread])
  · exact ho.done.frame (by simp [hthread])
  · exact ho.idle
  · exact ho.finished
  · exact fun _ => rfl

theorem Orderly.closeReads (ho : s.Orderly r) (hthread : s.threads t = .closeReads r :: k) :
    ((s.modify r fun y => { y with reads := y.reads.shut }).goto t ([] ++ k)).Orderly r := by
  obtain ⟨heof, -⟩ := ho.reads.of_mem (t := t) (by simp [hthread])
  refine ⟨?_, ?_, ?_, ?_, ?_⟩ <;> rw [goto_obj, modify_obj_self]
  · rw [heof, Chan.shut_closed]
    exact ho.reads.perform (by simp [hthread])
  · exact ho.done.frame (by simp [hthread])
  · exact ho.idle
  · exact ho.finished
  · exact ho.eof

theorem Orderly.forceClose (ho : s.Orderly r) {err : Err}
    (hthread : s.threads t = .forceClose r err :: k) (honce : (s.obj r).closeOnce = .idle) :
    ((s.modify r fun y => y.forceClose err).goto t
      ([.removeStream r, .closeDone r] ++ k)).Orderly r := by
  have hdone := ho.done
  rw [ho.idle.1 honce] at hdone
  refine ⟨?_, ?_, ?_, ?_, ?_⟩ <;> rw [goto_obj, modify_obj_self]
  · -- `reads` is closed here unless somebody else has claimed its close
    have hreads : Deferred s.threads (.closeReads r) true ((s.obj r).forceClose err).reads.closed := by
      have hreads := ho.reads
      by_cases heof : (s.obj r).remoteEOF = true
      · simpa [Stream.forceClose, heof] using hreads
      · rw [Bool.not_eq_true] at heof
        rw [heof] at hreads
        simpa [Stream.forceClose, heof] using hreads.atOnce
    exact hreads.frame (by simp [hthread])
  · rw [show ((s.obj r).forceClose err).done = false from hdone.done_eq_false]
    exact hdone.claim (by simp [hthread])
  · simp [Stream.forceClose]
  · simp [Stream.forceClose, hdone.done_eq_false]
  · exact fun _ => rfl

theorem Orderly.closeDone (ho : s.Orderly r) (hthread : s.threads t = .closeDone r :: k) :
    ((s.modify r fun y => { y with done := true, closeOnce := .finished }).goto t
      ([] ++ k)).Orderly r := by
  obtain ⟨hclosed, -⟩ := ho.done.of_mem (t := t) (by simp [hthread])
  refine ⟨?_, ?_, ?_, ?_, ?_⟩ <;> rw [goto_obj, modify_obj_self]
  · exact ho.reads.frame (by simp [hthread])
  · rw [hclosed]
    exact ho.done.perform (by simp [hthread])
  · simp [hclosed]
  · simp
  · exact ho.eof

/-- **A section keeps every stream orderly.** -/
theorem Orderly.closes (ho : s.Orderly r) (hthread : s.threads t = a :: k)
    (h : Closes s a new s₁) : (s₁.goto t (new ++ k)).Orderly r := by
  cases h with
  | @remoteClose q heof =>
    by_cases hq : r = q
    · subst hq
      exact ho.remoteClose hthread heof
    · exact ho.frame hthread rfl (modify_obj_of_ne hq) (by simp [hq]) (by simp)
  | @closeReads q _ =>
    by_cases hq : r = q
    · subst hq
      exact ho.closeReads hthread
    · exact ho.frame hthread rfl (modify_obj_of_ne hq) (by simp [hq]) (by simp)
  | @closeReadsPanic q hclosed =>
    by_cases hq : r = q
    · subst hq
      obtain ⟨-, hopen⟩ := ho.reads.of_mem (t := t) (by simp [hthread])
      rw [hclosed] at hopen
      cases hopen
    · exact ho.frame hthread rfl rfl (by simp [hq]) (by simp)
  | @forceClose q err honce =>
    by_cases hq : r = q
    · subst hq
      exact ho.forceClose hthread honce
    · exact ho.frame hthread rfl (modify_obj_of_ne hq) (by simp) (by simp [hq])
  | @closeDone q =>
    by_cases hq : r = q
    · subst hq
      exact ho.closeDone hthread
    · exact ho.frame hthread rfl (modify_obj_of_ne hq) (by simp) (by simp [hq])
  | remoteCloseAgain | forceCloseAgain _ | removeStream | shutdown _ | shutdownAgain _ | pick
  | shutdownEnd => exact ho.frame hthread rfl rfl (by simp) (by simp)

/-! ## Channels -/

@[simp] theorem goto_isClosed (s : Session) (t : Tid) (k : List Act) (channel : Channel) :
    (s.goto t k).isClosed channel = s.isClosed channel := by
  cases channel <;> rfl

/-- A channel is closed after a section if it was before, or if the section closes it. -/
theorem Closes.isClosed_iff (h : Closes s a new s₁) (channel : Channel) :
    s₁.isClosed channel = true ↔ s.isClosed channel = true ∨ s.closes a = some channel := by
  cases h with
  | @closeReads q _ | @closeDone q | @remoteClose q _ =>
    cases channel with
    | reads r | done r =>
      by_cases hr : r = q
      · simp [isClosed, closes, modify, hr]
      · simp [isClosed, closes, modify, hr, Ne.symm hr]
    | session => simp [isClosed, closes, modify]
  | @closeReadsPanic q hclosed =>
    cases channel with
    | reads r =>
      by_cases hr : r = q
      · simp [isClosed, hr, hclosed]
      · simp [isClosed, closes, Ne.symm hr]
    | _ => simp [isClosed, closes]
  | @forceClose q err honce =>
    cases channel with
    | reads r =>
      by_cases hr : r = q
      · subst hr
        by_cases heof : (s.obj r).remoteEOF = true <;>
          simp [isClosed, closes, Stream.forceClose, honce, heof]
      · by_cases heof : (s.obj q).remoteEOF = true <;>
          simp [isClosed, closes, modify_obj_of_ne hr, honce, heof, Ne.symm hr]
    | done r =>
      by_cases hr : r = q
      · subst hr
        simp [isClosed, closes, Stream.forceClose]
      · simp [isClosed, closes, modify_obj_of_ne hr]
    | session => simp [isClosed, closes, modify]
  | shutdown hclose => cases channel <;> simp [isClosed, closes, hclose]
  | forceCloseAgain honce => simp [closes, honce]
  | shutdownAgain hclose => simp [closes, hclose]
  | removeStream => cases channel <;> simp [isClosed, closes, forget]
  | remoteCloseAgain | pick | shutdownEnd => cases channel <;> simp [isClosed, closes]

/-- **No section closes a closed channel.** -/
theorem isClosed_of_closes (ho : ∀ r, s.Orderly r) (hclose : s.close = .idle ↔ s.done = false)
    (ha : a ∈ s.threads t) {channel : Channel} (hcloses : s.closes a = some channel) :
    s.isClosed channel = false := by
  cases a with
  | closeReads r =>
    cases Option.some.inj hcloses
    exact ((ho r).reads.of_mem ha).2
  | closeDone r =>
    cases Option.some.inj hcloses
    exact ((ho r).done.of_mem ha).2
  | forceClose r err =>
    obtain ⟨⟨-, heof⟩, hchannel⟩ := Option.ite_none_right_eq_some.1 hcloses
    cases Option.some.inj hchannel
    have hreads := (ho r).reads
    rw [heof] at hreads
    exact hreads.done_eq_false
  | shutdown err =>
    obtain ⟨hidle, hchannel⟩ := Option.ite_none_right_eq_some.1 hcloses
    cases Option.some.inj hchannel
    exact hclose.1 hidle
  | _ => cases hcloses

/-- When `forceClose` returns, `done` is closed. -/
theorem Closes.done_of_returns (h : Closes s a new s₁) (ho : ∀ r, s.Orderly r)
    (hreturns : s.returns a = some r) : s₁.isClosed (.done r) = true := by
  cases h with
  | closeDone =>
    cases Option.some.inj hreturns
    simp [isClosed]
  | forceClose honce =>
    rw [returns, honce] at hreturns
    cases hreturns
  | forceCloseAgain honce =>
    obtain ⟨-, hr⟩ := Option.ite_none_right_eq_some.1 hreturns
    cases Option.some.inj hr
    exact (ho _).finished.1 honce
  | _ => cases hreturns

/-- `shutdown` runs its function once. -/
theorem Closes.close_iff (h : Closes s a new s₁) (hclose : s.close = .idle ↔ s.done = false)
    (hdone : ∀ rs err, a = .forceCloseAll rs err → s.done = true) :
    s₁.close = .idle ↔ s₁.done = false := by
  cases h with
  | shutdown _ => simp
  | shutdownEnd => simp [hdone _ _ rfl]
  | _ => exact hclose

/-- The loop of `shutdown` begins with the close of the session's `done`. -/
theorem Closes.sweeps (h : Closes s a new s₁) {rs : List Ref} {err : Err}
    (hmem : .forceCloseAll rs err ∈ new) :
    s.closes a = some .session ∨ ∃ rs' err', a = .forceCloseAll rs' err' := by
  cases h with
  | shutdown hidle => exact Or.inl (if_pos hidle)
  | pick => exact Or.inr ⟨_, _, rfl⟩
  | _ => simp at hmem

/-- Nothing panics. -/
theorem Closes.crashed_eq (h : Closes s a new s₁) (ho : ∀ r, s.Orderly r) (ha : a ∈ s.threads t) :
    s₁.crashed = s.crashed := by
  cases h with
  | closeReadsPanic hclosed =>
    have hopen := ((ho _).reads.of_mem ha).2
    rw [hclosed] at hopen
    cases hopen
  | _ => rfl

/-- No call of the three functions has been made: nothing is closed and nothing runs. -/
structure Uncalled (s : Session) : Prop where
  threads : ∀ t, s.threads t = []
  crashed : s.crashed = false
  close : s.close = .idle
  channels : ∀ channel, s.isClosed channel = false
  streams : ∀ r, (s.obj r).remoteEOF = false ∧ (s.obj r).closed = false ∧ (s.obj r).closeOnce = .idle

theorem Uncalled.orderly (h : s.Uncalled) (r : Ref) : s.Orderly r := by
  have hreads : (s.obj r).reads.closed = false := h.channels (.reads r)
  have hdone : (s.obj r).done = false := h.channels (.done r)
  obtain ⟨heof, hclosed, honce⟩ := h.streams r
  refine ⟨?_, ?_, by simp [honce, hclosed], by simp [honce, hdone], by simp [hclosed]⟩
  · rw [heof, hreads]
    exact .unclaimed (by simp [h.threads])
  · rw [hclosed, hdone]
    exact .unclaimed (by simp [h.threads])

end Session

namespace Closing

open Session

variable {json : Codec} {x x' : Closing} {l : Label} {s : Session}

structure Sound (x : Closing) : Prop where
  acts : ∀ t, ∀ a ∈ x.session.threads t, a.ofClose = true
  orderly : ∀ r, x.session.Orderly r
  crashed : x.session.crashed = false
  close : x.session.close = .idle ↔ x.session.done = false
  /-- The loop of `shutdown` runs after the close. -/
  sweeping : ∀ t rs err, .forceCloseAll rs err ∈ x.session.threads t → x.session.done = true
  closes : ∀ channel, x.session.isClosed channel = true ↔ channel ∈ x.closes
  nodup : x.closes.Nodup
  returned : ∀ r ∈ x.returned, x.session.isClosed (.done r) = true

theorem start_sound (h : s.Uncalled) : (start s).Sound where
  acts := by simp [start, h.threads]
  orderly := h.orderly
  crashed := h.crashed
  close := iff_of_true h.close (h.channels .session)
  sweeping := by simp [start, h.threads]
  closes := by simp [start, h.channels]
  nodup := List.nodup_nil
  returned := by simp [start]

/-- A call puts one section on an idle goroutine and changes nothing else. -/
theorem Sound.call (hx : x.Sound) {t : Tid} (hidle : x.session.threads t = []) (call : CloseCall) :
    Sound { x with session := x.session.goto t [call.act] } where
  acts := by
    intro u a ha
    by_cases hu : u = t
    · subst hu
      rw [goto_threads_self, List.mem_singleton] at ha
      subst ha
      cases call <;> rfl
    · rw [goto_threads_of_ne _ _ hu] at ha
      exact hx.acts u a ha
  orderly := by
    intro r
    have ho := hx.orderly r
    have hcount : ∀ b : Act, b ≠ call.act → [call.act].count b = (x.session.threads t).count b := by
      intro b hb
      rw [hidle, List.count_nil, List.count_eq_zero, List.mem_singleton]
      exact hb
    refine ⟨ho.reads.frame (hcount _ ?_), ho.done.frame (hcount _ ?_), ho.idle, ho.finished, ho.eof⟩ <;>
      cases call <;> exact Act.noConfusion
  crashed := hx.crashed
  close := hx.close
  sweeping := by
    intro u rs err hmem
    by_cases hu : u = t
    · subst hu
      rw [goto_threads_self, List.mem_singleton] at hmem
      cases call <;> cases hmem
    · rw [goto_threads_of_ne _ _ hu] at hmem
      exact hx.sweeping u rs err hmem
  closes := hx.closes
  nodup := hx.nodup
  returned := hx.returned

/-- The sections on the stacks after a section has run. -/
theorem mem_threads_of_closes {s₁ : Session} {t u : Tid} {a b : Act} {k new : List Act}
    (hthread : s.threads t = a :: k) (h : Closes s a new s₁)
    (hb : b ∈ (s₁.goto t (new ++ k)).threads u) : b ∈ s.threads u ∨ b ∈ new := by
  by_cases hu : u = t
  · subst hu
    rw [goto_threads_self] at hb
    rcases List.mem_append.1 hb with hb | hb
    · exact Or.inr hb
    · exact Or.inl (mem_of_tail hthread hb)
  · rw [goto_threads_of_ne _ _ hu, h.threads_eq] at hb
    exact Or.inl hb

theorem Sound.run (hx : x.Sound) {t : Tid} {a : Act} {k new : List Act} {s₁ : Session}
    (hthread : x.session.threads t = a :: k) (h : Closes x.session a new s₁) :
    Sound ⟨s₁.goto t (new ++ k), x.closes ++ (x.session.closes a).toList,
      x.returned ++ (x.session.returns a).toList⟩ := by
  have ha : a ∈ x.session.threads t := by simp [hthread]
  have hclosed : ∀ channel, (s₁.goto t (new ++ k)).isClosed channel = true ↔
      x.session.isClosed channel = true ∨ x.session.closes a = some channel := by
    intro channel
    rw [goto_isClosed]
    exact h.isClosed_iff channel
  refine ⟨?_, fun r => (hx.orderly r).closes hthread h, ?_, ?_, ?_, ?_, ?_, ?_⟩
  · intro u b hb
    exact (mem_threads_of_closes hthread h hb).elim (hx.acts u b) (h.ofClose b)
  · exact (h.crashed_eq hx.orderly ha).trans hx.crashed
  · exact h.close_iff hx.close fun rs err heq => hx.sweeping t rs err (heq ▸ ha)
  · intro u rs err hmem
    refine (hclosed .session).2 ?_
    rcases mem_threads_of_closes hthread h hmem with hold | hnew
    · exact Or.inl (hx.sweeping u rs err hold)
    · rcases h.sweeps hnew with hcloses | ⟨rs', err', rfl⟩
      · exact Or.inr hcloses
      · exact Or.inl (hx.sweeping t rs' err' ha)
  · intro channel
    rw [hclosed, hx.closes, List.mem_append, Option.mem_toList]
  · refine List.nodup_append.2 ⟨hx.nodup, ?_, ?_⟩
    · cases x.session.closes a <;> simp
    · -- what is closed now was open
      rintro channel hmem _ hcloses rfl
      rw [Option.mem_toList] at hcloses
      have hopen := isClosed_of_closes hx.orderly hx.close ha hcloses
      rw [(hx.closes channel).2 hmem] at hopen
      cases hopen
  · intro r hr
    rcases List.mem_append.1 hr with hr | hr
    · exact (hclosed _).2 (Or.inl (hx.returned r hr))
    · rw [Option.mem_toList] at hr
      exact h.done_of_returns hx.orderly hr

theorem Sound.step (hx : x.Sound) (h : x.step json l = some x') : x'.Sound := by
  cases l with
  | call t call =>
    simp only [Closing.step] at h
    split at h
    · cases h
    · next hguard =>
      cases Option.some.inj h
      rw [not_or, not_not] at hguard
      exact hx.call hguard.2 call
  | run t c =>
    simp only [Closing.step] at h
    split at h
    · cases h
    · next a k hthread =>
      obtain ⟨s', hstep, rfl⟩ := Option.map_eq_some_iff.1 h
      cases (step_steps hstep).2 with
      | @run _ b k' _ s₁ acts hthread' hran =>
        cases hthread.symm.trans hthread'
        obtain ⟨new, rfl, hcloses⟩ := hran.toCloses (hx.acts t a (by simp [hthread]))
        exact hx.run hthread hcloses

/-- **Channels are closed at most once.** Whatever calls of `remoteClose`, `forceClose` and
    `shutdown` are made on a session and its streams, by any number of goroutines, and however their
    sections interleave: no channel is closed twice and nothing panics, the closed channels are those
    that were closed, `reads` is closed only when `remoteEOF` is set, and once a `forceClose` of a
    stream has returned, the stream is `closed` with `remoteEOF` set and its `done` is closed. -/
theorem closed_at_most_once (h₀ : s.Uncalled) (h : Reachable (Closing.step json) (start s) x) :
    x.closes.Nodup ∧ x.session.crashed = false ∧
      (∀ channel, x.session.isClosed channel = true ↔ channel ∈ x.closes) ∧
      (∀ r, x.session.isClosed (.reads r) = true → (x.session.obj r).remoteEOF = true) ∧
      ∀ r ∈ x.returned, (x.session.obj r).closed = true ∧ (x.session.obj r).remoteEOF = true ∧
        x.session.isClosed (.done r) = true := by
  have hx : x.Sound := h.invariant Sound (fun _ _ _ hx hstep => hx.step hstep) (start_sound h₀)
  refine ⟨hx.nodup, hx.crashed, hx.closes, fun r hclosed => ?_, fun r hr => ?_⟩
  · have hreads := (hx.orderly r).reads
    rw [show (x.session.obj r).reads.closed = true from hclosed] at hreads
    exact hreads.claimed_of_done
  · have hdone := (hx.orderly r).done
    rw [show (x.session.obj r).done = true from hx.returned r hr] at hdone
    have hclosed := hdone.claimed_of_done
    exact ⟨hclosed, (hx.orderly r).eof hclosed, hx.returned r hr⟩

/-- A session with one stream in its map. -/
def oneStream : Session :=
  { Session.new 0 with
    started := true, count := 1, streams := fun id => if id = 0 then some 0 else none }

theorem oneStream_uncalled : oneStream.Uncalled where
  threads := fun _ => rfl
  crashed := rfl
  close := rfl
  channels := by
    intro channel
    cases channel <;> rfl
  streams := fun _ => ⟨rfl, rfl, rfl⟩

/-- `remoteClose` has claimed the close of `reads`; then `shutdown` and a `forceClose` close the
    stream, and only then `remoteClose` goes on. -/
def race : List Label :=
  [.call (.user 0) (.remoteClose 0), .run (.user 0) .go,
    .call (.user 1) (.shutdown .closed), .call (.user 2) (.forceClose 0 .closed),
    .run (.user 1) .go, .run (.user 1) (.pick 0), .run (.user 1) .go, .run (.user 1) .go,
    .run (.user 1) .go, .run (.user 2) .go, .run (.user 0) .go, .run (.user 1) .go]

def raced : Closing := after (Closing.step sampleCodec) (start oneStream) race

theorem raced_closed_once :
    raced.closes = [.session, .done 0, .reads 0] ∧ raced.returned = [0, 0] ∧
      raced.session.crashed = false ∧ (raced.session.obj 0).remoteEOF = true := by
  have hrun : exec (Closing.step sampleCodec) (start oneStream) race = some raced :=
    exec_after (by decide +kernel)
  obtain ⟨-, hcrashed, hcloses, heof, -⟩ := closed_at_most_once oneStream_uncalled ⟨race, hrun⟩
  exact ⟨by decide +kernel, by decide +kernel, hcrashed, heof 0 ((hcloses _).2 (by decide +kernel))⟩

end Closing

end LnProxy
