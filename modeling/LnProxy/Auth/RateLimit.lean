import LnProxy.Auth.Handshake
import Mathlib.Logic.Function.Basic

set_option autoImplicit false

/-! # The limit on failed handshakes (`RateLimiter`, `Server.handleConnection`)

`handleConnection` asks the limiter before the handshake and reports its outcome afterwards. Both are
sections under the limiter's lock, with a clock reading in front and, between them, a handshake that
takes as long as the peer likes. The connections of all hosts go through these sections in any order
here, and the history records what the limiter was told and which proofs were compared.

Times are nanoseconds; zero is Go's zero time. Counts and limits are 64-bit integers, and a count
wraps around; the two durations of a limiter are any integers. -/

namespace LnProxy.Auth

open Protocol Transition

/-! ## The limiter -/

structure Attempt where
  count : Int64
  windowStart : Nat
  blockedTill : Int
  deriving DecidableEq, Repr

/-- `attempt{}` -/
def Attempt.zero : Attempt := ⟨0, 0, 0⟩

/-- A key that the map does not hold reads as the zero value, so deleting a key sets it to that. -/
structure RateLimiter where
  limit : Int64
  window : Int
  blockFor : Int
  attempts : String → Attempt

namespace RateLimiter

def new (limit : Int64) (window blockFor : Int) : RateLimiter := ⟨limit, window, blockFor, fun _ => .zero⟩

def set (l : RateLimiter) (key : String) (state : Attempt) : RateLimiter :=
  { l with attempts := Function.update l.attempts key state }

/-- There is no window, or it has passed. -/
def expired (l : RateLimiter) (state : Attempt) (now : Nat) : Bool :=
  decide (state.windowStart = 0) || decide (l.window < (now : Int) - state.windowStart)

/-- `ErrRateLimited` -/
def errRateLimited : Err := .message "too many authentication failures"

/-- The locked section of `Allowed`. -/
def allowed (l : RateLimiter) (now : Nat) (key : String) : RateLimiter × Option Err :=
  let state := l.attempts key
  if now < state.blockedTill then (l, some errRateLimited)
  else if l.expired state now then (l.set key .zero, none)
  else (l, none)

/-- A failure counted in the window of its key, or in a new one. -/
def counted (l : RateLimiter) (now : Nat) (key : String) : Attempt :=
  let state := l.attempts key
  let state := if l.expired state now then ⟨0, now, 0⟩ else state
  { state with count := state.count + 1 }

/-- What a failure makes of the state of its key. -/
def failed (l : RateLimiter) (now : Nat) (key : String) : Attempt :=
  let state := l.counted now key
  if l.limit ≤ state.count then { state with blockedTill := now + l.blockFor } else state

/-- The locked section of `Fail`. -/
def fail (l : RateLimiter) (now : Nat) (key : String) : RateLimiter := l.set key (l.failed now key)

def success (l : RateLimiter) (key : String) : RateLimiter := l.set key .zero

theorem set_attempts_self (l : RateLimiter) (key : String) (state : Attempt) :
    (l.set key state).attempts key = state := Function.update_self ..

theorem set_attempts_of_ne (l : RateLimiter) {key other : String} (state : Attempt)
    (h : other ≠ key) : (l.set key state).attempts other = l.attempts other :=
  Function.update_of_ne h ..

theorem failed_blockedTill {l : RateLimiter} {now : Nat} {key : String}
    (h : l.limit ≤ (l.failed now key).count) :
    (l.failed now key).blockedTill = now + l.blockFor := by
  unfold failed at h ⊢
  dsimp only at h ⊢
  by_cases hlimit : l.limit ≤ (l.counted now key).count
  · rw [if_pos hlimit]
  · rw [if_neg hlimit] at h
    exact absurd h hlimit

/-- What `Allowed` does with a key that it lets through. -/
theorem allowed_none {l : RateLimiter} {now : Nat} {key : String} (h : (l.allowed now key).2 = none) :
    (l.attempts key).blockedTill ≤ now ∧
      ∀ other, other ≠ key → (l.allowed now key).1.attempts other = l.attempts other := by
  unfold allowed at h ⊢
  dsimp only at h ⊢
  split at h
  · cases h
  · next hblocked =>
    refine ⟨Int.not_lt.1 hblocked, fun other hne => ?_⟩
    rw [if_neg hblocked]
    split
    · exact l.set_attempts_of_ne _ hne
    · rfl

theorem allowed_some {l : RateLimiter} {now : Nat} {key : String} {err : Err}
    (h : (l.allowed now key).2 = some err) : (l.allowed now key).1 = l := by
  unfold allowed at h ⊢
  dsimp only at h ⊢
  split at h
  · next hblocked => rw [if_pos hblocked]
  · split at h <;> cases h

theorem allowed_config (l : RateLimiter) (now : Nat) (key : String) :
    (l.allowed now key).1.limit = l.limit ∧ (l.allowed now key).1.blockFor = l.blockFor := by
  unfold allowed
  dsimp only
  split
  · exact ⟨rfl, rfl⟩
  · split <;> exact ⟨rfl, rfl⟩

end RateLimiter

/-! ## Connections -/

/-- Where a connection stands in `handleConnection`. -/
inductive ConnPhase where
  /-- Before `Allowed`. -/
  | arrived
  /-- In `Allowed`, which has read the clock. -/
  | checking (now : Nat)
  /-- In `ServerHandshake`, before the response is read. -/
  | handshaking
  /-- In `ServerHandshake`, with the proof compared and the result still to be sent. -/
  | answering (ok : Bool)
  /-- `ServerHandshake` has failed. -/
  | rejected
  /-- In `Fail`, which has read the clock. -/
  | failing (now : Nat)
  /-- `ServerHandshake` has succeeded. -/
  | accepted
  /-- The limiter has refused the connection or been told of its outcome. -/
  | reported
  deriving DecidableEq, Repr

/-- The limiter has let the connection in, and it may still fail. -/
def ConnPhase.pending : ConnPhase → Bool
  | .handshaking | .answering _ | .rejected | .failing _ => true
  | _ => false

structure Connection where
  host : String
  nonce : Bytes
  phase : ConnPhase
  deriving DecidableEq, Repr

inductive Event where
  /-- `Fail` has recorded a failure, the `count`-th in its window. -/
  | failure (host : String) (time : Nat) (count : Int64)
  | success (host : String)
  /-- `ServerHandshake` has compared a proof. -/
  | evaluated (host : String) (time : Nat)
  deriving DecidableEq, Repr

structure Gate where
  limiter : RateLimiter
  now : Nat
  conns : List Connection
  /-- The latest event first. -/
  history : List Event

namespace Gate

inductive Label where
  | tick (time : Nat)
  | connect (host : String) (nonce : Bytes)
  /-- `time.Now` at the head of `Allowed` or `Fail`. -/
  | readClock (c : Nat)
  /-- The locked section of `Allowed`. -/
  | allowed (c : Nat)
  /-- `ServerHandshake` reads the response, or fails before. -/
  | receive (c : Nat) (received : Except Err Frame)
  /-- `ServerHandshake` sends the result, or fails to. -/
  | reply (c : Nat) (sent : Bool)
  /-- The locked section of `Fail`. -/
  | fail (c : Nat)
  /-- The locked section of `Success`. -/
  | success (c : Nat)

def new (limiter : RateLimiter) (now : Nat) : Gate := ⟨limiter, now, [], []⟩

/-- Connection `c` goes on to another phase. -/
def move (s : Gate) (c : Nat) (conn : Connection) (phase : ConnPhase) : Gate :=
  { s with conns := s.conns.set c { conn with phase := phase } }

def step (json : AuthCodec) (crypto : Crypto) (verifier : Verifier) (s : Gate) :
    Label → Option Gate
  | .tick time => some { s with now := s.now + time }
  | .connect host nonce => some { s with conns := s.conns ++ [⟨host, nonce, .arrived⟩] }
  | .readClock c => (s.conns[c]?).bind fun conn =>
    match conn.phase with
    | .arrived => some (s.move c conn (.checking s.now))
    | .rejected => some (s.move c conn (.failing s.now))
    | _ => none
  | .allowed c => (s.conns[c]?).bind fun conn =>
    match conn.phase with
    | .checking now =>
      let result := s.limiter.allowed now conn.host
      match result.2 with
      | some _ => some (move { s with limiter := result.1 } c conn .reported)
      | none => some (move { s with limiter := result.1 } c conn .handshaking)
    | _ => none
  | .receive c received => (s.conns[c]?).bind fun conn =>
    match conn.phase with
    | .handshaking =>
      let challenge := json.marshalChallenge (challengeFor verifier conn.nonce)
      match judge json crypto verifier "" challenge received with
      | .refused _ => some (s.move c conn .rejected)
      | .judged _ ok =>
        let s := { s with history := .evaluated conn.host s.now :: s.history }
        some (s.move c conn (.answering ok))
    | _ => none
  | .reply c sent => (s.conns[c]?).bind fun conn =>
    match conn.phase with
    | .answering ok => some (s.move c conn (if ok && sent then .accepted else .rejected))
    | _ => none
  | .fail c => (s.conns[c]?).bind fun conn =>
    match conn.phase with
    | .failing now =>
      let event := .failure conn.host now (s.limiter.failed now conn.host).count
      let s := { s with
        limiter := s.limiter.fail now conn.host, history := event :: s.history }
      some (s.move c conn .reported)
    | _ => none
  | .success c => (s.conns[c]?).bind fun conn =>
    match conn.phase with
    | .accepted =>
      let s := { s with
        limiter := s.limiter.success conn.host, history := .success conn.host :: s.history }
      some (s.move c conn .reported)
    | _ => none

/-! ## The property -/

/-- A failure that reached the limit was recorded for the host at time `t`, and no success since. -/
def Standing (limit : Int64) (history : List Event) (host : String) (t : Nat) : Prop :=
  ∃ (later : List Event) (n : Int64) (earlier : List Event),
    history = later ++ .failure host t n :: earlier ∧ limit ≤ n ∧ .success host ∉ later

/-- No proof of a host was compared within `blockFor` of a failure of that host that reached the
    limit. -/
def Guarded (limit : Int64) (blockFor : Int) (history : List Event) : Prop :=
  ∀ later host (time : Nat) earlier, history = later ++ .evaluated host time :: earlier →
    ∀ t, Standing limit earlier host t → t + blockFor ≤ time

/-- Where a failure reaches the limit, no other connection of its host is past `Allowed` and may
    still fail. -/
def alone (s : Gate) : Label → Bool
  | .fail c =>
    match s.conns[c]? with
    | some conn =>
      match conn.phase with
      | .failing now =>
        decide ((s.limiter.failed now conn.host).count < s.limiter.limit) ||
          (s.conns.eraseIdx c).all fun other =>
            decide (other.host ≠ conn.host) || !other.phase.pending
      | _ => true
    | none => true
  | _ => true

theorem standing_cons {limit : Int64} {event : Event} {history : List Event} {host : String} {t : Nat}
    (h : Standing limit (event :: history) host t) :
    (∃ n, event = .failure host t n ∧ limit ≤ n) ∨
      Standing limit history host t ∧ event ≠ .success host := by
  obtain ⟨later, n, earlier, heq, hn, hsuccess⟩ := h
  cases later with
  | nil =>
    cases heq
    exact Or.inl ⟨n, rfl, hn⟩
  | cons e later =>
    cases heq
    refine Or.inr ⟨⟨later, n, earlier, rfl, hn, ?_⟩, ?_⟩
    · exact fun hmem => hsuccess (List.mem_cons_of_mem _ hmem)
    · rintro rfl
      exact hsuccess (List.mem_cons_self ..)

theorem Guarded.cons {limit : Int64} {blockFor : Int} {event : Event} {history : List Event}
    (h : Guarded limit blockFor history)
    (hevent : ∀ host (time : Nat) t, event = .evaluated host time → Standing limit history host t →
      t + blockFor ≤ time) : Guarded limit blockFor (event :: history) := by
  intro later host time earlier heq t hstanding
  cases later with
  | nil =>
    cases heq
    exact hevent host time t rfl hstanding
  | cons e later =>
    cases heq
    exact h later host time earlier rfl t hstanding

/-! ## The invariant -/

variable {json : AuthCodec} {crypto : Crypto} {verifier : Verifier} {s s' : Gate} {l : Label}

/-- No connection of the host is past `Allowed` and may still fail. -/
def Quiet (s : Gate) (host : String) : Prop :=
  ∀ conn ∈ s.conns, conn.host = host → conn.phase.pending = false

structure Inv (s : Gate) : Prop where
  /-- A running block is in the limiter, and all connections that were let in before are over. -/
  block : ∀ host t, Standing s.limiter.limit s.history host t → s.now < t + s.limiter.blockFor →
    t + s.limiter.blockFor ≤ (s.limiter.attempts host).blockedTill ∧ s.Quiet host
  guarded : Guarded s.limiter.limit s.limiter.blockFor s.history
  clock : ∀ conn ∈ s.conns, ∀ now, conn.phase = .checking now → now ≤ s.now

theorem new_inv (limiter : RateLimiter) (now : Nat) : (new limiter now).Inv where
  block := by
    rintro host t ⟨later, n, earlier, heq, -, -⟩
    cases later <;> cases heq
  guarded := by
    rintro later host time earlier heq
    cases later <;> cases heq
  clock := by simp [new]

/-- A host with a connection that may still fail is not blocked. -/
theorem Inv.not_blocked (hinv : s.Inv) {conn : Connection} (hmem : conn ∈ s.conns)
    (hpending : conn.phase.pending = true) {t : Nat}
    (hstanding : Standing s.limiter.limit s.history conn.host t) :
    t + s.limiter.blockFor ≤ s.now := by
  by_contra hlt
  obtain ⟨-, hquiet⟩ := hinv.block conn.host t hstanding (Int.not_le.1 hlt)
  rw [hquiet conn hmem rfl] at hpending
  cases hpending

/-- What a step does to the connections, by what the other parts of the state depend on. -/
inductive Steps (json : AuthCodec) (crypto : Crypto) (verifier : Verifier) (s : Gate) :
    Label → Gate → Prop where
  | tick (time : Nat) : Steps json crypto verifier s (.tick time) { s with now := s.now + time }
  | connect (host : String) (nonce : Bytes) :
      Steps json crypto verifier s (.connect host nonce)
        { s with conns := s.conns ++ [⟨host, nonce, .arrived⟩] }
  | check {c : Nat} {conn : Connection} (hconn : s.conns[c]? = some conn)
      (hphase : conn.phase = .arrived) :
      Steps json crypto verifier s (.readClock c) (s.move c conn (.checking s.now))
  /-- A pending connection goes on, to a phase in which it may or may not fail any more. -/
  | go {l : Label} {c : Nat} {conn : Connection} {phase : ConnPhase}
      (hconn : s.conns[c]? = some conn) (hpending : conn.phase.pending = true)
      (hphase : ∀ now, phase ≠ .checking now) :
      Steps json crypto verifier s l (s.move c conn phase)
  | refused {c now : Nat} {conn : Connection} (hconn : s.conns[c]? = some conn)
      (hphase : conn.phase = .checking now) :
      Steps json crypto verifier s (.allowed c) (s.move c conn .reported)
  | allowed {c now : Nat} {conn : Connection} (hconn : s.conns[c]? = some conn)
      (hphase : conn.phase = .checking now) (h : (s.limiter.allowed now conn.host).2 = none) :
      Steps json crypto verifier s (.allowed c)
        (move { s with limiter := (s.limiter.allowed now conn.host).1 } c conn .handshaking)
  | evaluated {c : Nat} {received : Except Err Frame} {conn : Connection} {ok : Bool}
      (hconn : s.conns[c]? = some conn) (hphase : conn.phase = .handshaking) :
      Steps json crypto verifier s (.receive c received)
        (move { s with history := .evaluated conn.host s.now :: s.history } c conn (.answering ok))
  | fail {c now : Nat} {conn : Connection} (hconn : s.conns[c]? = some conn)
      (hphase : conn.phase = .failing now) :
      Steps json crypto verifier s (.fail c)
        (move { s with
          limiter := s.limiter.fail now conn.host,
          history :=
            .failure conn.host now (s.limiter.failed now conn.host).count :: s.history }
          c conn .reported)
  | success {c : Nat} {conn : Connection} (hconn : s.conns[c]? = some conn)
      (hphase : conn.phase = .accepted) :
      Steps json crypto verifier s (.success c)
        (move { s with
          limiter := s.limiter.success conn.host, history := .success conn.host :: s.history }
          c conn .reported)

/-- **Inversion of a step.** -/
theorem step_steps (h : step json crypto verifier s l = some s') :
    Steps json crypto verifier s l s' := by
  cases l with
  | tick time =>
    cases h
    exact .tick time
  | connect host nonce =>
    cases h
    exact .connect host nonce
  | readClock c =>
    obtain ⟨conn, hconn, h⟩ := Option.bind_eq_some_iff.1 h
    split at h
    · next hphase =>
      cases h
      exact .check hconn hphase
    · next hphase =>
      cases h
      exact .go hconn (by rw [hphase]; rfl) (by simp)
    · cases h
  | allowed c =>
    obtain ⟨conn, hconn, h⟩ := Option.bind_eq_some_iff.1 h
    split at h
    · next now hphase =>
      dsimp only at h
      split at h
      · next herr =>
        rw [RateLimiter.allowed_some herr] at h
        cases h
        exact .refused hconn hphase
      · next herr =>
        cases h
        exact .allowed hconn hphase herr
    · cases h
  | receive c received =>
    obtain ⟨conn, hconn, h⟩ := Option.bind_eq_some_iff.1 h
    split at h
    · next hphase =>
      dsimp only at h
      split at h
      · cases h
        exact .go hconn (by rw [hphase]; rfl) (by simp)
      · cases h
        exact .evaluated hconn hphase
    · cases h
  | reply c sent =>
    obtain ⟨conn, hconn, h⟩ := Option.bind_eq_some_iff.1 h
    split at h
    · next ok hphase =>
      cases h
      refine .go hconn (by rw [hphase]; rfl) fun now => ?_
      split <;> simp
    · cases h
  | fail c =>
    obtain ⟨conn, hconn, h⟩ := Option.bind_eq_some_iff.1 h
    split at h
    · next now hphase =>
      cases h
      exact .fail hconn hphase
    · cases h
  | success c =>
    obtain ⟨conn, hconn, h⟩ := Option.bind_eq_some_iff.1 h
    split at h
    · next hphase =>
      cases h
      exact .success hconn hphase
    · cases h

/-! ## Preservation -/

/-- A connection that goes on leaves the invariant alone, unless it becomes pending while its host is
    blocked. -/
theorem Inv.move (hinv : s.Inv) {c : Nat} {conn : Connection} {phase : ConnPhase}
    (hclock : ∀ now, phase = .checking now → now ≤ s.now)
    (hpending : phase.pending = true → ∀ t, Standing s.limiter.limit s.history conn.host t →
      t + s.limiter.blockFor ≤ s.now) : (s.move c conn phase).Inv := by
  refine ⟨fun host t hstanding hlt => ?_, hinv.guarded, fun other hother now hphase => ?_⟩
  · obtain ⟨hblocked, hquiet⟩ := hinv.block host t hstanding hlt
    refine ⟨hblocked, fun other hother hhost => ?_⟩
    rcases List.mem_or_eq_of_mem_set hother with hother | rfl
    · exact hquiet other hother hhost
    · by_contra hphase
      have hhost : conn.host = host := hhost
      subst hhost
      exact Int.not_le.2 hlt (hpending (by simpa using hphase) t hstanding)
  · rcases List.mem_or_eq_of_mem_set hother with hother | rfl
    · exact hinv.clock other hother now hphase
    · exact hclock now hphase

/-- Who is let in by `Allowed` is not blocked. -/
theorem Inv.not_blocked_of_allowed (hinv : s.Inv) {conn : Connection} {now : Nat}
    (hmem : conn ∈ s.conns) (hphase : conn.phase = .checking now)
    (h : (s.limiter.allowed now conn.host).2 = none) {t : Nat}
    (hstanding : Standing s.limiter.limit s.history conn.host t) :
    t + s.limiter.blockFor ≤ s.now := by
  by_contra hlt
  obtain ⟨hblocked, -⟩ := hinv.block conn.host t hstanding (Int.not_le.1 hlt)
  have hallowed := (RateLimiter.allowed_none h).1
  have hclock := hinv.clock conn hmem now hphase
  omega

theorem quiet_of_alone {c now : Nat} {conn : Connection} (hconn : s.conns[c]? = some conn)
    (hphase : conn.phase = .failing now) (halone : s.alone (.fail c) = true)
    (hlimit : s.limiter.limit ≤ (s.limiter.failed now conn.host).count) :
    (s.move c conn .reported).Quiet conn.host := by
  simp only [alone, hconn, hphase, Bool.or_eq_true, decide_eq_true_eq, List.all_eq_true,
    Bool.not_eq_true'] at halone
  have hothers := halone.resolve_left (Int64.not_lt.2 hlimit)
  intro other hother hhost
  obtain ⟨i, hi⟩ := List.mem_iff_getElem?.1 hother
  rw [Gate.move, List.getElem?_set] at hi
  split at hi
  · split at hi
    · cases hi
      rfl
    · cases hi
  · next hne =>
    have hmem : other ∈ s.conns.eraseIdx c :=
      List.mem_eraseIdx_iff_getElem?.2 ⟨i, fun heq => hne heq.symm, hi⟩
    exact (hothers other hmem).resolve_left (fun h => h hhost)

section Steps

variable {c now : Nat} {conn : Connection}

theorem Inv.connect (hinv : s.Inv) (host : String) (nonce : Bytes) :
    Inv { s with conns := s.conns ++ [⟨host, nonce, .arrived⟩] } := by
  refine ⟨fun host' t hstanding hlt => ?_, hinv.guarded, fun conn hconn now hphase => ?_⟩
  · obtain ⟨hblocked, hquiet⟩ := hinv.block host' t hstanding hlt
    refine ⟨hblocked, fun conn hconn hhost => ?_⟩
    rcases List.mem_append.1 hconn with hconn | hconn
    · exact hquiet conn hconn hhost
    · rw [List.mem_singleton.1 hconn]
      rfl
  · rcases List.mem_append.1 hconn with hconn | hconn
    · exact hinv.clock conn hconn now hphase
    · rw [List.mem_singleton.1 hconn] at hphase
      cases hphase

theorem Inv.allowed (hinv : s.Inv) (hconn : s.conns[c]? = some conn)
    (hphase : conn.phase = .checking now) (h : (s.limiter.allowed now conn.host).2 = none) :
    (Gate.move { s with limiter := (s.limiter.allowed now conn.host).1 } c conn .handshaking).Inv := by
  have hfree : ∀ t, Standing s.limiter.limit s.history conn.host t →
      t + s.limiter.blockFor ≤ s.now := fun t hstanding =>
    hinv.not_blocked_of_allowed (List.mem_of_getElem? hconn) hphase h hstanding
  obtain ⟨hlimit, hblockFor⟩ := s.limiter.allowed_config now conn.host
  have hmoved : (s.move c conn .handshaking).Inv :=
    hinv.move (fun now heq => by cases heq) (fun _ => hfree)
  refine ⟨fun host t hstanding hlt => ?_, ?_, hmoved.clock⟩
  · simp only [Gate.move, hlimit, hblockFor] at hstanding hlt ⊢
    -- the state of the host itself may have been deleted, but then it is not blocked
    have hne : host ≠ conn.host := by
      rintro rfl
      exact Int.not_le.2 hlt (hfree t hstanding)
    obtain ⟨hblocked, hquiet⟩ := hmoved.block host t hstanding hlt
    rw [(RateLimiter.allowed_none h).2 host hne]
    exact ⟨hblocked, hquiet⟩
  · simp only [Gate.move, hlimit, hblockFor]
    exact hinv.guarded

theorem Inv.evaluated (hinv : s.Inv) (hconn : s.conns[c]? = some conn)
    (hpending : conn.phase.pending = true) (ok : Bool) :
    (Gate.move { s with history := .evaluated conn.host s.now :: s.history } c conn
      (.answering ok)).Inv := by
  have hfree : ∀ t, Standing s.limiter.limit s.history conn.host t →
      t + s.limiter.blockFor ≤ s.now := fun t hstanding =>
    hinv.not_blocked (List.mem_of_getElem? hconn) hpending hstanding
  have hmoved : (s.move c conn (.answering ok)).Inv :=
    hinv.move (fun now heq => by cases heq) (fun _ => hfree)
  refine ⟨fun host t hstanding hlt => ?_, ?_, hmoved.clock⟩
  · rcases standing_cons hstanding with ⟨n, heq, -⟩ | ⟨hstanding, -⟩
    · cases heq
    · exact hmoved.block host t hstanding hlt
  · refine hinv.guarded.cons fun host time t heq hstanding => ?_
    cases heq
    exact hfree t hstanding

theorem Inv.fail (hinv : s.Inv) (hconn : s.conns[c]? = some conn)
    (hphase : conn.phase = .failing now) (halone : s.alone (.fail c) = true) :
    (Gate.move { s with
      limiter := s.limiter.fail now conn.host,
      history := .failure conn.host now (s.limiter.failed now conn.host).count :: s.history }
      c conn .reported).Inv := by
  have hpending : conn.phase.pending = true := by
    rw [hphase]
    rfl
  have hmoved : (s.move c conn .reported).Inv :=
    hinv.move (fun now heq => by cases heq) (fun hpending => by cases hpending)
  refine ⟨fun host t hstanding hlt => ?_, ?_, hmoved.clock⟩
  · rcases standing_cons hstanding with ⟨n, heq, hn⟩ | ⟨hstanding, -⟩
    · -- the block of this failure
      obtain ⟨rfl, rfl, rfl⟩ := Event.failure.inj heq
      have hreached : s.limiter.limit ≤ (s.limiter.failed now conn.host).count := hn
      have hquiet := quiet_of_alone hconn hphase halone hreached
      refine ⟨?_, hquiet⟩
      show now + s.limiter.blockFor ≤ ((s.limiter.fail now conn.host).attempts conn.host).blockedTill
      rw [RateLimiter.fail, RateLimiter.set_attempts_self, RateLimiter.failed_blockedTill hreached]
    · -- an earlier block that still runs is of another host
      have hne : host ≠ conn.host := by
        rintro rfl
        exact Int.not_le.2 hlt (hinv.not_blocked (List.mem_of_getElem? hconn) hpending hstanding)
      obtain ⟨hblocked, hquiet⟩ := hmoved.block host t hstanding hlt
      refine ⟨?_, hquiet⟩
      show t + s.limiter.blockFor ≤ ((s.limiter.fail now conn.host).attempts host).blockedTill
      rw [RateLimiter.fail, s.limiter.set_attempts_of_ne _ hne]
      exact hblocked
  · exact hinv.guarded.cons fun _ _ _ heq => by cases heq

theorem Inv.success (hinv : s.Inv) :
    (Gate.move { s with
      limiter := s.limiter.success conn.host, history := .success conn.host :: s.history }
      c conn .reported).Inv := by
  have hmoved : (s.move c conn .reported).Inv :=
    hinv.move (fun now heq => by cases heq) (fun hpending => by cases hpending)
  refine ⟨fun host t hstanding hlt => ?_, ?_, hmoved.clock⟩
  · rcases standing_cons hstanding with ⟨n, heq, -⟩ | ⟨hstanding, hsuccess⟩
    · cases heq
    · have hne : host ≠ conn.host := by
        rintro rfl
        exact hsuccess rfl
      obtain ⟨hblocked, hquiet⟩ := hmoved.block host t hstanding hlt
      refine ⟨?_, hquiet⟩
      show t + s.limiter.blockFor ≤ ((s.limiter.success conn.host).attempts host).blockedTill
      rw [RateLimiter.success, s.limiter.set_attempts_of_ne _ hne]
      exact hblocked
  · exact hinv.guarded.cons fun _ _ _ heq => by cases heq

end Steps

theorem Inv.steps (hinv : s.Inv) (halone : s.alone l = true)
    (h : Steps json crypto verifier s l s') : s'.Inv := by
  cases h with
  | tick time =>
    refine ⟨fun host t hstanding hlt => ?_, hinv.guarded, fun conn hconn now hphase => ?_⟩
    · refine hinv.block host t hstanding ?_
      have hlater : ((s.now + time : Nat) : Int) < t + s.limiter.blockFor := hlt
      omega
    · exact Nat.le_trans (hinv.clock conn hconn now hphase) (Nat.le_add_right ..)
  | connect host nonce => exact hinv.connect host nonce
  | check hconn hphase =>
    refine hinv.move (fun now heq => ?_) (fun hpending => by cases hpending)
    cases heq
    exact Nat.le_refl _
  | go hconn hpending hphase =>
    exact hinv.move (fun now heq => absurd heq (hphase now))
      fun _ t hstanding => hinv.not_blocked (List.mem_of_getElem? hconn) hpending hstanding
  | refused hconn hphase =>
    exact hinv.move (fun now heq => by cases heq) (fun hpending => by cases hpending)
  | allowed hconn hphase h => exact hinv.allowed hconn hphase h
  | evaluated hconn hphase => exact hinv.evaluated hconn (by rw [hphase]; rfl) _
  | fail hconn hphase => exact hinv.fail hconn hphase halone
  | success hconn hphase => exact hinv.success

/-! ## The result -/

theorem Steps.config (h : Steps json crypto verifier s l s') :
    s'.limiter.limit = s.limiter.limit ∧ s'.limiter.blockFor = s.limiter.blockFor := by
  cases h with
  | allowed _ _ _ => exact s.limiter.allowed_config _ _
  | _ => exact ⟨rfl, rfl⟩

/-- **When a block holds.** In every run in which a failure reaches the limit only while no other
    connection of its host is past `Allowed` and may still fail, no proof of a host is compared
    within `blockFor` of such a failure, unless a success was recorded in between. -/
theorem guarded_of_alone {limiter : RateLimiter} {now : Nat} {as : List Label}
    (hrun : exec (step json crypto verifier) (new limiter now) as = some s)
    (halone : Along (step json crypto verifier) (fun m l => m.alone l = true) (new limiter now) as) :
    Guarded limiter.limit limiter.blockFor s.history := by
  have hinv : s.Inv ∧ s.limiter.limit = limiter.limit ∧ s.limiter.blockFor = limiter.blockFor := by
    refine exec_invariant (fun m => m.Inv ∧ m.limiter.limit = limiter.limit ∧
      m.limiter.blockFor = limiter.blockFor) ?_ ⟨new_inv limiter now, rfl, rfl⟩ halone hrun
    rintro m l m' ⟨hm, hlimit, hblockFor⟩ hok hstep
    have hsteps := step_steps hstep
    obtain ⟨hlimit', hblockFor'⟩ := hsteps.config
    exact ⟨hm.steps hok hsteps, hlimit'.trans hlimit, hblockFor'.trans hblockFor⟩
  obtain ⟨hinv, hlimit, hblockFor⟩ := hinv
  rw [← hlimit, ← hblockFor]
  exact hinv.guarded

def second : Nat := 1000000000

/-- The limiter of a server. -/
def serverLimiter : RateLimiter := .new 5 (60 * second) (30 * second)

/-- A response of the right form, with a wrong proof. -/
def wrongProof : Except Err Frame :=
  .ok ⟨frameAuthResponse, 0, sampleAuthCodec.marshalResponse ⟨version, "", [], ""⟩⟩

abbrev sampleStep : Gate → Label → Option Gate := step sampleAuthCodec sampleCrypto sampleVerifier

/-- Connection `c` arrives and asks the limiter. -/
def arrive (c : Nat) (host : String) : List Label :=
  [.connect host sampleNonce, .readClock c, .allowed c]

/-- Connection `c` hangs up before it answers the challenge. -/
def hangUp (c : Nat) : List Label := [.receive c (.error .eof), .readClock c, .fail c]

/-- Four connections of a host and one of another are in the handshake together, and the four fail. One
    that comes then is the fifth to fail; while the host is blocked, the other host sends its proof and
    the next connection is refused, and one that comes 30 seconds later is let in. -/
def interleaved : List Label :=
  (List.range 4).flatMap (arrive · "10.0.0.1") ++ arrive 4 "10.0.0.2" ++
    [Label.receive 0 wrongProof, .receive 1 (.error .eof), .readClock 1, .reply 0 true,
      .receive 2 (.error .eof), .readClock 0, .fail 1, .readClock 2] ++ hangUp 3 ++
    [Label.fail 0, .fail 2] ++ arrive 5 "10.0.0.1" ++
    [Label.receive 5 wrongProof, .reply 5 true, .readClock 5, .fail 5] ++ arrive 6 "10.0.0.1" ++
    [Label.receive 4 wrongProof, .tick (30 * second)] ++ arrive 7 "10.0.0.1" ++ [Label.receive 7 wrongProof]

theorem interleaved_guarded :
    ∃ s, exec sampleStep (new serverLimiter second) interleaved = some s ∧
      s.history.take 3 = [.evaluated "10.0.0.1" (31 * second), .evaluated "10.0.0.2" second,
        .failure "10.0.0.1" second 5] ∧
      Guarded serverLimiter.limit serverLimiter.blockFor s.history := by
  have hrun : exec sampleStep (new serverLimiter second) interleaved =
      some (after sampleStep (new serverLimiter second) interleaved) := exec_after (by decide +kernel)
  exact ⟨_, hrun, by decide +kernel, guarded_of_alone hrun (by decide +kernel)⟩

/-- Six connections are let in, five of them fail, then the sixth answers. -/
def allAtOnce : List Label :=
  (List.range 6).flatMap (arrive · "10.0.0.1") ++ (List.range 5).flatMap hangUp ++
    [Label.receive 5 wrongProof]

/-- The limit is reached late in the window, and a connection let in before fails when the window has
    passed: its failure starts a new window and drops the block, so that another one gets in. -/
def newWindow : List Label :=
  (List.range 6).flatMap (arrive · "10.0.0.1") ++ hangUp 0 ++ [Label.tick (58 * second)] ++
    [1, 2, 3, 4].flatMap hangUp ++ [Label.tick (3 * second)] ++ hangUp 5 ++ arrive 6 "10.0.0.1" ++
    [Label.receive 6 wrongProof]

/-- What is recorded in the two runs: a proof is compared at the very moment of the fifth failure, and
    three seconds after it. -/
theorem allAtOnce_not_guarded :
    (∃ s, exec sampleStep (new serverLimiter second) allAtOnce = some s ∧
        ¬ Guarded serverLimiter.limit serverLimiter.blockFor s.history) ∧
      ∃ s, exec sampleStep (new serverLimiter second) newWindow = some s ∧
        ¬ Guarded serverLimiter.limit serverLimiter.blockFor s.history := by
  refine ⟨⟨_, exec_after (by decide +kernel), fun hguarded => ?_⟩,
    ⟨_, exec_after (by decide +kernel), fun hguarded => ?_⟩⟩
  · have hhistory : (after sampleStep (new serverLimiter second) allAtOnce).history =
        .evaluated "10.0.0.1" second ::
          ([5, 4, 3, 2, 1].map fun n => .failure "10.0.0.1" second n) := by decide +kernel
    have hle := hguarded [] "10.0.0.1" second _ hhistory second ⟨[], 5, _, rfl, by decide, by simp⟩
    exact absurd hle (by decide)
  · have hhistory : (after sampleStep (new serverLimiter second) newWindow).history =
        [.evaluated "10.0.0.1" (62 * second), .failure "10.0.0.1" (62 * second) 1] ++
          ([5, 4, 3, 2].map fun n => .failure "10.0.0.1" (59 * second) n) ++
          [.failure "10.0.0.1" second 1] := by decide +kernel
    have hle := hguarded [] "10.0.0.1" (62 * second) _ hhistory (59 * second)
      ⟨[.failure "10.0.0.1" (62 * second) 1], 5, _, rfl, by decide, by simp⟩
    exact absurd hle (by decide)

end Gate

end LnProxy.Auth
