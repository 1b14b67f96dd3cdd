import LnProxy.Lib.Transition
import Mathlib.Algebra.Order.BigOperators.Group.List
import Mathlib.Algebra.Ring.Int.Defs
import Mathlib.Tactic.Push

set_option autoImplicit false

/-! # The drain counter (`managerDialer.Dial`, `countedStream.Close`)

`Shutdown` waits until the runtime's counter of active streams is zero. It is counted up in
`managerDialer.Dial`, after the manager has opened a stream, and counted down in the `Once` of
`countedStream.Close`. The handlers of the two proxies call that `Close` themselves, leave it to a
deferred call or to `Relay`, or do more than one of these.

A handler is what its goroutine still has to do. Every step that can fail takes its outcome from the
label, and any number of other goroutines may call `Close` on the stream of a handler as well. -/

namespace LnProxy.Drain

open Transition

/-! ## Handlers -/

/-- `handleConnect`, `handleHTTP` and the SOCKS5 `handle`. -/
inductive Kind where
  | connect | http | socks
  deriving DecidableEq, Repr

/-- The steps before the dial. -/
inductive Check where
  | readRequest | absoluteURL | splitHostPort | negotiate | readSOCKS
  deriving DecidableEq, Repr

inductive Act where
  | check (c : Check)
  /-- `manager.Dial` -/
  | dial
  /-- `Fallback()` and an exit other than `auto` -/
  | retry
  /-- `manager.Dial` with the exit `auto` -/
  | fallback
  /-- `active.Add(1)` -/
  | count
  /-- The reply to the client, or the request to the target. -/
  | write
  /-- `io.Copy` in one direction, with the `CloseWrite` after it. -/
  | copy
  /-- `target.Close`, to its `Once` -/
  | close
  /-- `Stream.Close` in the `Once` -/
  | closeStream
  /-- `active.Add(-1)` -/
  | uncount
  /-- The end of the function the `Once` runs. -/
  | leave
  deriving DecidableEq, Repr

inductive Once where
  | idle
  | running (thread : Nat)
  | finished
  deriving DecidableEq, Repr

/-- A handler and its stream. Thread 0 is the handler's own goroutine. -/
structure Handler where
  kind : Kind
  threads : Nat → List Act
  /-- The manager has opened a stream. -/
  dialled : Bool
  once : Once
  /-- How often the stream was counted up, and down. -/
  up : Nat
  down : Nat

def Kind.checks : Kind → List Check
  | .connect => [.readRequest, .splitHostPort]
  | .http => [.readRequest, .absoluteURL, .splitHostPort]
  | .socks => [.negotiate, .readSOCKS]

/-- What follows after the write: `Relay` closes the target, and in the SOCKS5 handler a deferred call
    closes it again; the plain handler only has the deferred call. -/
def Kind.relay : Kind → List Act
  | .connect => [.copy, .copy, .close]
  | .http => [.copy, .copy, .close]
  | .socks => [.copy, .copy, .close, .close]

namespace Handler

def new (kind : Kind) : Handler :=
  ⟨kind, fun t => if t = 0 then kind.checks.map .check ++ [.dial, .write] else [], false, .idle, 0, 0⟩

def go (h : Handler) (t : Nat) (acts : List Act) : Handler :=
  { h with threads := Function.update h.threads t acts }

/-- The next act of a thread, and what it adds to the counter. -/
def run (h : Handler) (t : Nat) (outcome : Bool) : Option (Handler × Int) :=
  match h.threads t with
  | [] => none
  | .check _ :: rest => some (h.go t (if outcome then rest else []), 0)
  | .dial :: rest =>
    if outcome then some ({ h with dialled := true }.go t (.count :: rest), 0)
    else some (h.go t (.retry :: rest), 0)
  | .retry :: rest => some (h.go t (if outcome then .fallback :: rest else []), 0)
  | .fallback :: rest =>
    if outcome then some ({ h with dialled := true }.go t (.count :: rest), 0)
    else some (h.go t [], 0)
  | .count :: rest => some ({ h with up := h.up + 1 }.go t rest, 1)
  | .write :: _ => some (h.go t (if outcome then h.kind.relay else [.close]), 0)
  | .copy :: rest => some (h.go t rest, 0)
  | .close :: rest =>
    match h.once with
    | .idle =>
      some ({ h with once := .running t }.go t (.closeStream :: .uncount :: .leave :: rest), 0)
    -- another goroutine is in the `Once`
    | .running _ => none
    | .finished => some (h.go t rest, 0)
  | .closeStream :: rest => some (h.go t rest, 0)
  | .uncount :: rest => some ({ h with down := h.down + 1 }.go t rest, -1)
  | .leave :: rest => some ({ h with once := .finished }.go t rest, 0)

/-- The handler's goroutine is in `managerDialer.Dial`. -/
def Dialling (h : Handler) : Prop :=
  ∃ act ∈ (h.threads 0).head?, act = .dial ∨ act = .retry ∨ act = .fallback ∨ act = .count

/-- A goroutine is in the `Once` of `countedStream.Close`. -/
def Closing (h : Handler) : Prop := ∃ t, h.once = .running t

/-- What the handler has added to the counter. -/
def net (h : Handler) : Int := h.up - h.down

end Handler

structure State where
  handlers : List Handler
  active : Int

def init : State := ⟨[], 0⟩

inductive Label where
  | accept (kind : Kind)
  | run (i t : Nat) (outcome : Bool)
  /-- Another goroutine calls `Close` on the stream of handler `i`. -/
  | close (i t : Nat)
  deriving DecidableEq, Repr

def step (s : State) : Label → Option State
  | .accept kind => some { s with handlers := s.handlers ++ [.new kind] }
  | .run i t outcome => (s.handlers[i]?).bind fun h =>
    (h.run t outcome).map fun (h', change) => ⟨s.handlers.set i h', s.active + change⟩
  | .close i t => (s.handlers[i]?).bind fun h =>
    if h.up = 1 ∧ t ≠ 0 ∧ h.threads t = [] then
      some { s with handlers := s.handlers.set i (h.go t [.close]) }
    else none

/-! ## One stream -/

/-- What a handler has to do before its stream is counted. -/
inductive Opening : List Act → Bool → Prop where
  | checking (checks : List Check) : Opening (checks.map .check ++ [.dial, .write]) false
  | retry : Opening [.retry, .write] false
  | fallback : Opening [.fallback, .write] false
  | count : Opening [.count, .write] true
  | failed : Opening [] false

theorem Opening.eq_count {acts : List Act} (h : Opening acts true) : acts = [.count, .write] := by
  cases h with
  | count => rfl

/-- An act that comes after the dial and is not in the `Once`. -/
def Act.outside : Act → Bool
  | .write | .copy | .close => true
  | _ => false

/-- Where a goroutine is in the `Once`, and whether it has counted down. -/
inductive Inside : List Act → Nat → Prop where
  | closeStream (rest : List Act) (h : ∀ a ∈ rest, a.outside = true) :
      Inside (.closeStream :: .uncount :: .leave :: rest) 0
  | uncount (rest : List Act) (h : ∀ a ∈ rest, a.outside = true) : Inside (.uncount :: .leave :: rest) 0
  | leave (rest : List Act) (h : ∀ a ∈ rest, a.outside = true) : Inside (.leave :: rest) 1

/-- A stream that was counted up. -/
structure Counted (h : Handler) : Prop where
  up : h.up = 1
  dialled : h.dialled = true
  outside : ∀ t, h.once ≠ .running t → ∀ a ∈ h.threads t, a.outside = true
  inside : ∀ t, h.once = .running t → Inside (h.threads t) h.down
  idle : h.once = .idle → h.down = 0
  finished : h.once = .finished → h.down = 1
  /-- The handler does not return before the stream is closed. -/
  closes : h.once = .finished ∨ .write ∈ h.threads 0 ∨ .close ∈ h.threads 0 ∨ .leave ∈ h.threads 0

/-- What holds of a handler: its stream is not counted yet, or it is. -/
inductive Handler.Ok (h : Handler) : Prop where
  | opening (hacts : Opening (h.threads 0) h.dialled) (hup : h.up = 0) (hdown : h.down = 0)
      (honce : h.once = .idle) (hothers : ∀ t, t ≠ 0 → h.threads t = [])
  | counted (hcounted : Counted h)

section Run

variable {h h' : Handler} {t t' : Nat} {outcome : Bool} {change : Int} {acts rest : List Act}

theorem go_threads_self (h : Handler) (t : Nat) (acts : List Act) : (h.go t acts).threads t = acts :=
  Function.update_self ..

theorem go_threads_of_ne (h : Handler) (acts : List Act) (hne : t' ≠ t) :
    (h.go t acts).threads t' = h.threads t' := Function.update_of_ne hne ..

theorem new_ok (kind : Kind) : (Handler.new kind).Ok :=
  .opening (.checking kind.checks) rfl rfl rfl fun _ hne => if_neg hne

theorem relay_outside (kind : Kind) : ∀ a ∈ kind.relay, a.outside = true := by
  cases kind <;> decide

theorem close_mem_relay (kind : Kind) : .close ∈ kind.relay := by
  cases kind <;> decide

/-- A stream is counted when its handler has only the write before it. -/
theorem counted_of_count (hdialled : h.dialled = true) (hup : h.up = 0) (hdown : h.down = 0)
    (honce : h.once = .idle) (hothers : ∀ t, t ≠ 0 → h.threads t = []) :
    Counted ({ h with up := h.up + 1 }.go 0 [.write]) where
  up := by simp [Handler.go, hup]
  dialled := hdialled
  outside := by
    intro t _ a ha
    by_cases ht : t = 0
    · subst ht
      rw [go_threads_self] at ha
      rw [List.mem_singleton.1 ha]
      rfl
    · rw [go_threads_of_ne _ _ ht, show ({ h with up := h.up + 1 } : Handler).threads t = [] from
        hothers t ht] at ha
      cases ha
  inside := by
    intro t hrunning
    have hsame : h.once = .running t := hrunning
    rw [honce] at hsame
    cases hsame
  idle := fun _ => hdown
  finished := by
    intro hfinished
    have hsame : h.once = .finished := hfinished
    rw [honce] at hsame
    cases hsame
  closes := by
    refine Or.inr (Or.inl ?_)
    rw [go_threads_self]
    exact List.mem_singleton_self _

/-- A goroutine outside the `Once` goes on outside. -/
theorem Counted.go_outside (hc : Counted h) (hout : h.once ≠ .running t)
    (hacts : ∀ a ∈ acts, a.outside = true)
    (hcloses : t = 0 → h.once = .finished ∨ .write ∈ acts ∨ .close ∈ acts) :
    Counted (h.go t acts) where
  up := hc.up
  dialled := hc.dialled
  outside := by
    intro t' hne a ha
    by_cases ht : t' = t
    · subst ht
      rw [go_threads_self] at ha
      exact hacts a ha
    · rw [go_threads_of_ne _ _ ht] at ha
      exact hc.outside t' hne a ha
  inside := by
    intro t' hrunning
    have hne : t' ≠ t := by
      intro heq
      exact hout (heq ▸ hrunning)
    rw [go_threads_of_ne _ _ hne]
    exact hc.inside t' hrunning
  idle := hc.idle
  finished := hc.finished
  closes := by
    by_cases ht : t = 0
    · subst ht
      rw [go_threads_self]
      rcases hcloses rfl with h | h | h
      · exact Or.inl h
      · exact Or.inr (Or.inl h)
      · exact Or.inr (Or.inr (Or.inl h))
    · rw [go_threads_of_ne _ _ (Ne.symm ht)]
      exact hc.closes

/-- The goroutine in the `Once` goes on in it, or comes to its end. -/
theorem Counted.go_inside {once : Once} {down : Nat} (hc : Counted h) (hnot : h.once ≠ .finished)
    (hothers : ∀ t', t' ≠ t → h.once ≠ .running t')
    (hnext : once = .running t ∧ Inside acts down ∨
      once = .finished ∧ down = 1 ∧ ∀ a ∈ acts, a.outside = true)
    (hleave : once = .finished ∨ .leave ∈ acts) :
    Counted ({ h with once := once, down := down }.go t acts) where
  up := hc.up
  dialled := hc.dialled
  outside := by
    intro t' hne a ha
    by_cases ht : t' = t
    · subst ht
      rw [go_threads_self] at ha
      rcases hnext with ⟨hrunning, _⟩ | ⟨_, _, hacts⟩
      · exact absurd hrunning hne
      · exact hacts a ha
    · rw [go_threads_of_ne _ _ ht] at ha
      exact hc.outside t' (hothers t' ht) a ha
  inside := by
    intro t' hrunning
    have hrunning' : once = .running t' := hrunning
    rcases hnext with ⟨honce, hinside⟩ | ⟨honce, _⟩
    · rw [honce] at hrunning'
      cases hrunning'
      rw [go_threads_self]
      exact hinside
    · rw [honce] at hrunning'
      cases hrunning'
  idle := by
    intro hidle
    have hidle' : once = .idle := hidle
    rcases hnext with ⟨honce, _⟩ | ⟨honce, _⟩
    · rw [honce] at hidle'
      cases hidle'
    · rw [honce] at hidle'
      cases hidle'
  finished := by
    intro hfinished
    have hfinished' : once = .finished := hfinished
    rcases hnext with ⟨honce, _⟩ | ⟨_, hdown, _⟩
    · rw [honce] at hfinished'
      cases hfinished'
    · exact hdown
  closes := by
    rcases hleave with hfinished | hmem
    · exact Or.inl hfinished
    · by_cases ht : t = 0
      · subst ht
        rw [go_threads_self]
        exact Or.inr (Or.inr (Or.inr hmem))
      · rw [go_threads_of_ne _ _ (Ne.symm ht)]
        rcases hc.closes with hfinished | hcloses
        · exact absurd hfinished hnot
        · exact Or.inr hcloses

/-- A step of a handler whose stream is not counted yet. -/
theorem Opening.run (hopening : Opening (h.threads 0) h.dialled) (hup : h.up = 0) (hdown : h.down = 0)
    (honce : h.once = .idle) (hothers : ∀ t, t ≠ 0 → h.threads t = [])
    (hrun : h.run t outcome = some (h', change)) : h'.Ok ∧ h'.net = h.net + change := by
  unfold Handler.run at hrun
  by_cases ht : t = 0
  · subst ht
    -- as long as nothing is counted, only what the handler has to do changes
    have hgo : ∀ acts dialled, Opening acts dialled →
        ({ h with dialled := dialled }.go 0 acts).Ok ∧
          ({ h with dialled := dialled }.go 0 acts).net = h.net + 0 := by
      intro acts dialled hacts
      refine ⟨.opening ?_ hup hdown honce fun t ht => ?_, (Int.add_zero _).symm⟩
      · rw [go_threads_self]
        exact hacts
      · rw [go_threads_of_ne _ _ ht]
        exact hothers t ht
    generalize hacts : h.threads 0 = acts at hopening hrun
    generalize hdialled : h.dialled = dialled at hopening
    have hsame : ∀ acts, Opening acts false → dialled = false →
        (h.go 0 acts).Ok ∧ (h.go 0 acts).net = h.net + 0 := by
      intro acts hopening hfalse
      have hresult := hgo acts false hopening
      rwa [show ({ h with dialled := false } : Handler) = h by rw [← hfalse, ← hdialled]] at hresult
    cases hopening with
    | checking checks =>
      cases checks with
      | nil =>
        cases outcome with
        | true =>
          cases hrun
          exact hgo _ true .count
        | false =>
          cases hrun
          exact hsame _ .retry rfl
      | cons check checks =>
        cases hrun
        cases outcome with
        | true => exact hsame _ (.checking checks) rfl
        | false => exact hsame _ .failed rfl
    | retry =>
      cases hrun
      cases outcome with
      | true => exact hsame _ .fallback rfl
      | false => exact hsame _ .failed rfl
    | fallback =>
      cases outcome with
      | true =>
        cases hrun
        exact hgo _ true .count
      | false =>
        cases hrun
        exact hsame _ .failed rfl
    | count =>
      cases hrun
      refine ⟨.counted (counted_of_count hdialled hup hdown honce hothers), ?_⟩
      simp [Handler.net, Handler.go, hup, hdown]
    | failed => cases hrun
  · rw [hothers t ht] at hrun
    cases hrun

/-- A step of a handler whose stream was counted. -/
theorem Counted.run (hc : Counted h) (hrun : h.run t outcome = some (h', change)) :
    Counted h' ∧ h'.net = h.net + change := by
  unfold Handler.run at hrun
  by_cases honce : h.once = .running t
  · have hinside := hc.inside t honce
    have hothers : ∀ t', t' ≠ t → h.once ≠ .running t' := by
      intro t' hne heq
      rw [honce] at heq
      cases heq
      exact hne rfl
    have hnot : h.once ≠ .finished := by simp [honce]
    generalize hacts : h.threads t = acts at hinside hrun
    generalize hdown : h.down = down at hinside
    have hsame : ({ h with once := .running t, down := down } : Handler) = h := by rw [← honce, ← hdown]
    cases hinside with
    | closeStream rest hrest =>
      cases hrun
      have hnext := hc.go_inside hnot hothers (Or.inl ⟨rfl, .uncount rest hrest⟩)
        (Or.inr (by simp))
      rw [hsame] at hnext
      exact ⟨hnext, (Int.add_zero _).symm⟩
    | uncount rest hrest =>
      cases hrun
      have hnext := hc.go_inside hnot hothers (Or.inl ⟨rfl, .leave rest hrest⟩) (Or.inr (by simp))
      rw [show ({ h with once := .running t, down := 1 } : Handler) = { h with down := h.down + 1 } by
        rw [← honce, hdown]] at hnext
      refine ⟨hnext, ?_⟩
      simp only [Handler.net, Handler.go]
      omega
    | leave rest hrest =>
      cases hrun
      have hnext := hc.go_inside hnot hothers (Or.inr ⟨rfl, rfl, hrest⟩) (Or.inl rfl)
      rw [show ({ h with once := .finished, down := 1 } : Handler) = { h with once := .finished } by
        rw [← hdown]] at hnext
      exact ⟨hnext, (Int.add_zero _).symm⟩
  · have houtside := hc.outside t honce
    generalize hacts : h.threads t = acts at houtside hrun
    have hcloses : t = 0 → h.once = .finished ∨ .write ∈ acts ∨ .close ∈ acts := by
      intro ht
      subst ht
      rcases hc.closes with hfinished | hmem
      · exact Or.inl hfinished
      · rw [hacts] at hmem
        rcases hmem with hmem | hmem | hmem
        · exact Or.inr (Or.inl hmem)
        · exact Or.inr (Or.inr hmem)
        · exact absurd (houtside _ hmem) (by decide)
    cases acts with
    | nil => cases hrun
    | cons act rest =>
      have hrest : ∀ a ∈ rest, a.outside = true := fun a ha => houtside a (List.mem_cons_of_mem _ ha)
      have hact := houtside act (List.mem_cons_self ..)
      cases act with
      | write =>
        cases hrun
        refine ⟨hc.go_outside honce ?_ fun _ => Or.inr (Or.inr ?_), (Int.add_zero _).symm⟩
        · cases outcome with
          | true => exact relay_outside h.kind
          | false =>
            show ∀ a ∈ [Act.close], a.outside = true
            decide
        · cases outcome with
          | true => exact close_mem_relay h.kind
          | false => exact List.mem_singleton_self _
      | copy =>
        cases hrun
        refine ⟨hc.go_outside honce hrest fun ht => ?_, (Int.add_zero _).symm⟩
        simpa using hcloses ht
      | close =>
        cases hidle : h.once with
        | idle =>
          rw [hidle] at hrun
          cases hrun
          have hnext := hc.go_inside (t := t) (by simp [hidle]) (by simp [hidle])
            (Or.inl ⟨rfl, .closeStream rest hrest⟩) (Or.inr (by simp))
          rw [show ({ h with once := .running t, down := 0 } : Handler) =
            { h with once := .running t } by rw [← hc.idle hidle]] at hnext
          exact ⟨hnext, (Int.add_zero _).symm⟩
        | running t' =>
          rw [hidle] at hrun
          cases hrun
        | finished =>
          rw [hidle] at hrun
          cases hrun
          exact ⟨hc.go_outside honce hrest fun _ => Or.inl hidle, (Int.add_zero _).symm⟩
      | check | dial | retry | fallback | count | closeStream | uncount | leave => cases hact

end Run

/-- **A step of a handler keeps its account**, and the counter changes by what it adds. -/
theorem Handler.Ok.run {h h' : Handler} {t : Nat} {outcome : Bool} {change : Int} (hok : h.Ok)
    (hrun : h.run t outcome = some (h', change)) : h'.Ok ∧ h'.net = h.net + change := by
  cases hok with
  | opening hacts hup hdown honce hothers => exact hacts.run hup hdown honce hothers hrun
  | counted hcounted =>
    obtain ⟨hcounted', hnet⟩ := hcounted.run hrun
    exact ⟨.counted hcounted', hnet⟩

/-- Another goroutine calls `Close`. -/
theorem Handler.Ok.close {h : Handler} {t : Nat} (hok : h.Ok) (hup : h.up = 1) (ht : t ≠ 0)
    (hidle : h.threads t = []) : (h.go t [.close]).Ok := by
  cases hok with
  | opening hacts hzero hdown honce hothers =>
    rw [hup] at hzero
    cases hzero
  | counted hcounted =>
    have hout : h.once ≠ .running t := by
      intro hrunning
      have hinside := hcounted.inside t hrunning
      rw [hidle] at hinside
      cases hinside
    refine .counted (hcounted.go_outside hout ?_ fun hzero => absurd hzero ht)
    decide

namespace Handler.Ok

variable {h : Handler}

theorem up_le (hok : h.Ok) : h.up ≤ 1 := by
  cases hok with
  | opening hacts hup hdown honce hothers => omega
  | counted hcounted => exact Nat.le_of_eq hcounted.up

/-- What a handler has added is 0 or 1: 1 while its stream is counted and not counted down. -/
theorem net_cases (hok : h.Ok) : h.net = 0 ∨ h.net = 1 ∧ h.dialled = true ∧ h.once ≠ .finished := by
  unfold Handler.net
  cases hok with
  | opening hacts hup hdown honce hothers =>
    left
    omega
  | counted hcounted =>
    have hup := hcounted.up
    cases honce : h.once with
    | idle =>
      have hdown := hcounted.idle honce
      exact Or.inr ⟨by omega, hcounted.dialled, nofun⟩
    | finished =>
      have hdown := hcounted.finished honce
      left
      omega
    | running t =>
      have hinside := hcounted.inside t honce
      generalize hacts : h.threads t = acts at hinside
      generalize hdown : h.down = down at hinside
      cases hinside with
      | closeStream rest hrest => exact Or.inr ⟨by omega, hcounted.dialled, nofun⟩
      | uncount rest hrest => exact Or.inr ⟨by omega, hcounted.dialled, nofun⟩
      | leave rest hrest =>
        left
        omega

/-- A handler that has returned has counted its stream up and down, if it had one. -/
theorem returned (hok : h.Ok) (hreturned : h.threads 0 = []) :
    h.up = h.down ∧ (h.dialled = true → h.up = 1 ∧ h.down = 1) := by
  cases hok with
  | opening hacts hup hdown honce hothers =>
    refine ⟨hup.trans hdown.symm, fun htrue => ?_⟩
    rw [htrue] at hacts
    rw [hacts.eq_count] at hreturned
    cases hreturned
  | counted hcounted =>
    have hfinished : h.once = .finished := by
      rcases hcounted.closes with hfinished | hmem
      · exact hfinished
      · rw [hreturned] at hmem
        simp at hmem
    have hdown := hcounted.finished hfinished
    exact ⟨hcounted.up.trans hdown.symm, fun _ => ⟨hcounted.up, hdown⟩⟩

/-- Between dials and closes a handler has added 1 for a stream that is not closed. -/
theorem net_of_still (hok : h.Ok) (hdialling : ¬ h.Dialling) (hclosing : ¬ h.Closing) :
    h.net = if h.dialled = true ∧ h.once ≠ .finished then 1 else 0 := by
  unfold Handler.net
  cases hok with
  | opening hacts hup hdown honce hothers =>
    have hfalse : h.dialled ≠ true := by
      intro htrue
      rw [htrue] at hacts
      refine hdialling ⟨.count, ?_, by simp⟩
      rw [hacts.eq_count]
      rfl
    rw [if_neg fun hboth => hfalse hboth.1]
    omega
  | counted hcounted =>
    have hup := hcounted.up
    cases honce : h.once with
    | idle =>
      have hdown := hcounted.idle honce
      rw [if_pos ⟨hcounted.dialled, nofun⟩]
      omega
    | running t => exact absurd ⟨t, honce⟩ hclosing
    | finished =>
      have hdown := hcounted.finished honce
      rw [if_neg fun hboth => hboth.2 rfl]
      omega

end Handler.Ok

/-! ## All handlers -/

theorem sum_map_set {α : Type} (f : α → Int) {xs : List α} {i : Nat} {x : α} (y : α)
    (h : xs[i]? = some x) : ((xs.set i y).map f).sum = (xs.map f).sum + (f y - f x) := by
  induction xs generalizing i with
  | nil => cases h
  | cons z xs ih =>
    cases i with
    | zero =>
      obtain rfl : z = x := by simpa using h
      simp only [List.set_cons_zero, List.map_cons, List.sum_cons]
      omega
    | succ i =>
      have hi := ih (i := i) (by simpa using h)
      simp only [List.set_cons_succ, List.map_cons, List.sum_cons]
      omega

structure Inv (s : State) : Prop where
  ok : ∀ h ∈ s.handlers, h.Ok
  active : s.active = (s.handlers.map Handler.net).sum

theorem init_inv : Inv init := ⟨by simp [init], rfl⟩

theorem Inv.set {s : State} (hinv : Inv s) {i : Nat} {h h' : Handler} {change : Int}
    (hi : s.handlers[i]? = some h) (hok : h'.Ok) (hnet : h'.net = h.net + change) :
    Inv ⟨s.handlers.set i h', s.active + change⟩ := by
  refine ⟨fun g hg => ?_, ?_⟩
  · rcases List.mem_or_eq_of_mem_set hg with hg | rfl
    · exact hinv.ok g hg
    · exact hok
  · show s.active + change = _
    rw [sum_map_set Handler.net h' hi, hinv.active, hnet]
    omega

/-- **A step keeps the account.** -/
theorem Inv.step {s s' : State} {l : Label} (hinv : Inv s) (hstep : step s l = some s') : Inv s' := by
  cases l with
  | accept kind =>
    cases hstep
    refine ⟨fun h hmem => ?_, ?_⟩
    · rcases List.mem_append.1 hmem with hmem | hmem
      · exact hinv.ok h hmem
      · rw [List.mem_singleton.1 hmem]
        exact new_ok kind
    · show s.active = _
      rw [List.map_append, List.sum_append, hinv.active]
      simp [Handler.net, Handler.new]
  | run i t outcome =>
    obtain ⟨h, hi, hstep⟩ := Option.bind_eq_some_iff.1 hstep
    obtain ⟨⟨h', change⟩, hrun, rfl⟩ := Option.map_eq_some_iff.1 hstep
    obtain ⟨hok, hnet⟩ := (hinv.ok h (List.mem_of_getElem? hi)).run hrun
    exact hinv.set hi hok hnet
  | close i t =>
    obtain ⟨h, hi, hstep⟩ := Option.bind_eq_some_iff.1 hstep
    split at hstep
    · next hcond =>
      obtain ⟨hup, ht, hidle⟩ := hcond
      cases hstep
      have hok := (hinv.ok h (List.mem_of_getElem? hi)).close hup ht hidle
      have hnext := hinv.set hi hok (Int.add_zero _).symm
      rwa [Int.add_zero] at hnext
    · cases hstep

/-- A stream that was dialled and is not closed. -/
def Handler.open (h : Handler) : Bool := decide (h.dialled = true ∧ h.once ≠ .finished)

theorem sum_net_eq_countP {hs : List Handler}
    (hnet : ∀ h ∈ hs, h.net = if h.dialled = true ∧ h.once ≠ .finished then 1 else 0) :
    (hs.map Handler.net).sum = hs.countP Handler.open := by
  induction hs with
  | nil => rfl
  | cons h hs ih =>
    have hhead := hnet h (List.mem_cons_self ..)
    have htail := ih fun g hg => hnet g (List.mem_cons_of_mem _ hg)
    rw [List.map_cons, List.sum_cons, htail, hhead, List.countP_cons]
    unfold Handler.open
    by_cases hopen : h.dialled = true ∧ h.once ≠ .finished
    · simp [hopen]
      omega
    · simp [hopen]

/-- **The drain counter is conserved.** In every state that any interleaving of any number of handlers
    leads to, whatever the outcomes of their steps: a handler that has returned has added nothing in
    sum, and has counted its stream once up and once down if it had one; no stream is counted up or
    down twice, however often it is closed; the counter is not negative; where no handler is in `Dial`
    and no goroutine in the `Once` of a `Close`, it is the number of streams that were dialled and are
    not closed; and where it is positive, there is such a stream. -/
theorem drain_conserved {s : State} (h : Reachable step init s) :
    (∀ g ∈ s.handlers, g.threads 0 = [] →
      g.net = 0 ∧ (g.dialled = true → g.up = 1 ∧ g.down = 1)) ∧
    (∀ g ∈ s.handlers, g.up ≤ 1 ∧ g.down ≤ g.up) ∧
    s.active = (s.handlers.map Handler.net).sum ∧
    0 ≤ s.active ∧
    ((∀ g ∈ s.handlers, ¬ g.Dialling ∧ ¬ g.Closing) → s.active = s.handlers.countP Handler.open) ∧
    (0 < s.active → ∃ g ∈ s.handlers, g.dialled = true ∧ g.once ≠ .finished) := by
  have hinv : Inv s := h.invariant Inv (fun _ _ _ hinv hstep => hinv.step hstep) init_inv
  have hnonneg : ∀ g ∈ s.handlers, 0 ≤ g.net := by
    intro g hg
    rcases (hinv.ok g hg).net_cases with hnet | ⟨hnet, _⟩
    · omega
    · omega
  refine ⟨fun g hg hreturned => ?_, fun g hg => ?_, hinv.active, ?_, fun hstill => ?_, fun hpos => ?_⟩
  · obtain ⟨hsame, hcounted⟩ := (hinv.ok g hg).returned hreturned
    refine ⟨?_, hcounted⟩
    unfold Handler.net
    omega
  · have hnet := hnonneg g hg
    unfold Handler.net at hnet
    exact ⟨(hinv.ok g hg).up_le, by omega⟩
  · rw [hinv.active]
    refine List.sum_nonneg fun n hn => ?_
    obtain ⟨g, hg, rfl⟩ := List.mem_map.1 hn
    exact hnonneg g hg
  · rw [hinv.active]
    refine sum_net_eq_countP fun g hg => ?_
    exact (hinv.ok g hg).net_of_still (hstill g hg).1 (hstill g hg).2
  · by_contra hnone
    push Not at hnone
    have hzero : (s.handlers.map Handler.net).sum = 0 := by
      refine List.sum_eq_zero fun n hn => ?_
      obtain ⟨g, hg, rfl⟩ := List.mem_map.1 hn
      rcases (hinv.ok g hg).net_cases with hnet | ⟨_, hdialled, honce⟩
      · exact hnet
      · exact absurd (hnone g hg hdialled) honce
    rw [hinv.active] at hpos
    omega

/-- A SOCKS5 handler falls back to `auto` and relays; another goroutine closes its stream first, and
    the handler waits in `Relay` and closes it once more. -/
def socksRun : List Label :=
  [.accept .socks, .run 0 0 true, .run 0 0 true, .run 0 0 false, .run 0 0 true, .run 0 0 true,
    .run 0 0 true, .run 0 0 true, .run 0 0 true, .run 0 0 true, .close 0 1, .run 0 1 true,
    .run 0 1 true, .run 0 1 true, .run 0 1 true, .run 0 0 true, .run 0 0 true]

/-- The handler has dialled and returned, and its stream was counted up once and down once. -/
theorem socksRun_conserved : (after step init socksRun).active = 0 ∧
    ∃ g ∈ (after step init socksRun).handlers, g.dialled = true ∧ g.threads 0 = [] ∧ g.up = 1 ∧
      g.down = 1 := by
  have hconserved := (drain_conserved ⟨socksRun, exec_after (by decide +kernel)⟩).1
  have hsome : (after step init socksRun).handlers ≠ [] := by decide +kernel
  have hover : ∀ g ∈ (after step init socksRun).handlers, g.dialled = true ∧ g.threads 0 = [] := by
    decide +kernel
  obtain ⟨g, hg⟩ := List.exists_mem_of_ne_nil _ hsome
  obtain ⟨hdialled, hreturned⟩ := hover g hg
  obtain ⟨hup, hdown⟩ := (hconserved g hg hreturned).2 hdialled
  exact ⟨by decide +kernel, g, hg, hdialled, hreturned, hup, hdown⟩

end LnProxy.Drain
