import LnProxy.Auth.RateLimit

set_option autoImplicit false

/-! # How long a block lasts (`RateLimiter`)

A `Fail` that reaches the limit blocks its key for `blockFor`. The deadline is kept in the record that
also counts the failures of a window, and the window passes on its own schedule: a `Fail` that comes
after the window, of a handshake let in before the block, starts a new record without a deadline. So a
block lasts until its deadline exactly if no failure before the deadline finds the window passed, or
if a single failure is enough to block. -/

namespace LnProxy.Auth.RateLimiter

/-! ## Calls -/

/-- A call with its clock reading. -/
inductive Call where
  | allowed (key : String) (now : Nat)
  | fail (key : String) (now : Nat)
  | success (key : String) (now : Nat)
  deriving DecidableEq, Repr

def Call.key : Call → String
  | .allowed key _ | .fail key _ | .success key _ => key

def Call.now : Call → Nat
  | .allowed _ now | .fail _ now | .success _ now => now

/-- The limiter after a call. -/
def call (l : RateLimiter) : Call → RateLimiter
  | .allowed key now => (l.allowed now key).1
  | .fail key now => l.fail now key
  | .success key _ => l.success key

def calls (l : RateLimiter) (cs : List Call) : RateLimiter := cs.foldl call l

/-- What a call answers about a key: only `Allowed` has an answer. -/
def answer (l : RateLimiter) (key : String) : Call → List (Option Err)
  | .allowed key' now => if key' = key then [(l.allowed now key).2] else []
  | _ => []

/-- What the calls of `Allowed` for a key answer. -/
def answers (key : String) : RateLimiter → List Call → List (Option Err)
  | _, [] => []
  | l, c :: cs => l.answer key c ++ answers key (l.call c) cs

/-! ## One key at a time -/

/-- Two limiters that are the same for a key. -/
structure Agree (key : String) (l l' : RateLimiter) : Prop where
  limit : l'.limit = l.limit
  window : l'.window = l.window
  blockFor : l'.blockFor = l.blockFor
  attempts : l'.attempts key = l.attempts key

variable {l l' : RateLimiter} {key : String} {c : Call} {cs : List Call}

theorem Agree.refl (key : String) (l : RateLimiter) : Agree key l l := ⟨rfl, rfl, rfl, rfl⟩

theorem Agree.trans {l'' : RateLimiter} (h : Agree key l l') (h' : Agree key l' l'') :
    Agree key l l'' :=
  ⟨h'.limit.trans h.limit, h'.window.trans h.window, h'.blockFor.trans h.blockFor,
    h'.attempts.trans h.attempts⟩

theorem agree_set {state : Attempt} {key' : String} (h : key' ≠ key) : Agree key l (l.set key' state) :=
  ⟨rfl, rfl, rfl, l.set_attempts_of_ne state h.symm⟩

theorem Agree.set (h : Agree key l l') (state : Attempt) :
    Agree key (l.set key state) (l'.set key state) :=
  ⟨h.limit, h.window, h.blockFor, by rw [set_attempts_self, set_attempts_self]⟩

theorem Agree.allowed (h : Agree key l l') (now : Nat) :
    (l'.allowed now key).2 = (l.allowed now key).2 ∧
      Agree key (l.allowed now key).1 (l'.allowed now key).1 := by
  unfold RateLimiter.allowed expired
  rw [h.attempts, h.window]
  dsimp only
  split
  · exact ⟨rfl, h⟩
  · split
    · exact ⟨rfl, h.set .zero⟩
    · exact ⟨rfl, h⟩

theorem Agree.failed (h : Agree key l l') (now : Nat) : l'.failed now key = l.failed now key := by
  unfold RateLimiter.failed counted expired
  rw [h.attempts, h.window, h.limit, h.blockFor]

/-- A call for another key changes nothing for this one. -/
theorem agree_call (h : c.key ≠ key) : Agree key l (l.call c) := by
  cases c with
  | allowed key' now =>
    unfold call RateLimiter.allowed
    dsimp only
    split
    · exact .refl key l
    · split
      · exact agree_set h
      · exact .refl key l
  | fail key' now => exact agree_set h
  | success key' now => exact agree_set h

/-- A call for the key does the same to both. -/
theorem Agree.call (h : Agree key l l') (hkey : c.key = key) : Agree key (l.call c) (l'.call c) := by
  subst hkey
  cases c with
  | allowed key' now => exact (h.allowed now).2
  | fail key' now =>
    have hfailed : l'.failed now key' = l.failed now key' := h.failed now
    show Agree key' (l.set key' (l.failed now key')) (l'.set key' (l'.failed now key'))
    rw [hfailed]
    exact h.set _
  | success key' now => exact h.set .zero

theorem Agree.answer (h : Agree key l l') (c : Call) : l'.answer key c = l.answer key c := by
  cases c with
  | allowed key' now =>
    show (if key' = key then [(l'.allowed now key).2] else []) = _
    rw [(h.allowed now).1]
    rfl
  | fail key' now => rfl
  | success key' now => rfl

theorem answer_of_ne (h : c.key ≠ key) : l.answer key c = [] := by
  cases c with
  | allowed key' now => exact if_neg h
  | fail key' now => rfl
  | success key' now => rfl

/-- The answers for a key are those without the calls for the other keys. -/
theorem Agree.answers (h : Agree key l l') (cs : List Call) :
    answers key l' cs = answers key l (cs.filter fun c => c.key = key) := by
  induction cs generalizing l l' with
  | nil => rfl
  | cons c cs ih =>
    rw [RateLimiter.answers, h.answer c]
    by_cases hkey : c.key = key
    · rw [List.filter_cons_of_pos (by simpa using hkey), RateLimiter.answers, ih (h.call hkey)]
    · rw [List.filter_cons_of_neg (by simpa using hkey), answer_of_ne hkey, List.nil_append,
        ih (h.trans (agree_call hkey))]

/-! ## Blocks -/

/-- The window of the key has passed, so that a failure starts a new record. -/
def lapsed (l : RateLimiter) (key : String) (now : Nat) : Bool := l.expired (l.attempts key) now

/-- After the calls, or some of them, `Allowed` refuses the key at every time before the deadline. -/
def Upheld (l : RateLimiter) (key : String) (since : Nat) (deadline : Int) (cs : List Call) : Prop :=
  ∀ pre, pre <+: cs → ∀ now, since ≤ now → (∀ c ∈ pre, c.now ≤ now) → (now : Int) < deadline →
    ((l.calls pre).allowed now key).2 = some errRateLimited

/-- No failure of the key before the deadline finds the window passed. -/
def Steady (l : RateLimiter) (key : String) (deadline : Int) (cs : List Call) : Prop :=
  ∀ pre (now : Nat) post, cs = pre ++ Call.fail key now :: post → (now : Int) < deadline →
    (l.calls pre).lapsed key now = false

/-- The key is blocked until the deadline at least. -/
def Blocked (l : RateLimiter) (key : String) (deadline : Int) : Prop :=
  deadline ≤ (l.attempts key).blockedTill

variable {deadline : Int} {since now : Nat}

theorem fail_attempts (l : RateLimiter) (now : Nat) (key : String) :
    (l.fail now key).attempts key = l.failed now key := l.set_attempts_self key _

theorem failed_of_lapsed (h : l.lapsed key now = true) (hlimit : 1 < l.limit) :
    l.failed now key = ⟨1, now, 0⟩ := by
  have hcounted : l.counted now key = ⟨1, now, 0⟩ := by
    have hexpired : l.expired (l.attempts key) now = true := h
    simp only [counted, hexpired, if_true]
    rfl
  unfold failed
  dsimp only
  rw [hcounted, if_neg (Int64.not_le.2 hlimit)]

theorem Blocked.allowed (h : l.Blocked key deadline) (hnow : (now : Int) < deadline) :
    l.allowed now key = (l, some errRateLimited) := by
  have hlt : (now : Int) < (l.attempts key).blockedTill := Int.lt_of_lt_of_le hnow h
  unfold RateLimiter.allowed
  dsimp only
  rw [if_pos hlt]

theorem blocked_of_failed (h : l.limit ≤ (l.failed now key).count)
    (hdeadline : deadline ≤ now + l.blockFor) : (l.fail now key).Blocked key deadline := by
  rw [Blocked, fail_attempts, failed_blockedTill h]
  exact hdeadline

/-- A failure in the window of its key leaves the deadline or puts it off, and a single one is enough
    where the limit is one. -/
theorem Blocked.fail (h : l.Blocked key deadline) (hdeadline : deadline ≤ now + l.blockFor)
    (hsteady : l.limit ≤ 1 ∨ l.lapsed key now = false) : (l.fail now key).Blocked key deadline := by
  rw [Blocked, fail_attempts]
  unfold failed
  dsimp only
  split
  · exact hdeadline
  · next hbelow =>
    unfold counted at hbelow ⊢
    dsimp only at hbelow ⊢
    split at hbelow
    · next hexpired =>
      have hlapsed : l.lapsed key now = true := hexpired
      rw [hlapsed] at hsteady
      exact absurd (hsteady.resolve_right (by simp)) hbelow
    · next hexpired =>
      rw [if_neg hexpired]
      exact h

theorem Agree.blocked (h : Agree key l l') (hblocked : l.Blocked key deadline) :
    l'.Blocked key deadline := by
  rw [Blocked, h.attempts]
  exact hblocked

/-- A call before the deadline leaves the key blocked. -/
theorem Blocked.call (h : l.Blocked key deadline) (hnow : (c.now : Int) < deadline)
    (hdeadline : deadline ≤ c.now + l.blockFor) (hsuccess : ∀ now, c ≠ .success key now)
    (hsteady : l.limit ≤ 1 ∨ ∀ now, c = .fail key now → l.lapsed key now = false) :
    (l.call c).Blocked key deadline := by
  by_cases hkey : c.key = key
  · subst hkey
    cases c with
    | allowed key' now =>
      have hallowed := h.allowed hnow
      show (l.allowed now key').1.Blocked key' deadline
      rw [show l.allowed now key' = _ from hallowed]
      exact h
    | fail key' now => exact h.fail hdeadline (hsteady.imp_right fun hfail => hfail now rfl)
    | success key' now => exact absurd rfl (hsuccess now)
  · exact (agree_call hkey).blocked h

theorem call_config (l : RateLimiter) (c : Call) :
    (l.call c).limit = l.limit ∧ (l.call c).blockFor = l.blockFor := by
  cases c with
  | allowed key now => exact l.allowed_config now key
  | fail key now => exact ⟨rfl, rfl⟩
  | success key now => exact ⟨rfl, rfl⟩

/-- The calls before the deadline leave the key blocked. -/
theorem Blocked.calls (h : l.Blocked key deadline) (hearly : ∀ c ∈ cs, (c.now : Int) < deadline)
    (hdeadline : ∀ c ∈ cs, deadline ≤ c.now + l.blockFor)
    (hsuccess : ∀ now, .success key now ∉ cs) (hsteady : l.limit ≤ 1 ∨ l.Steady key deadline cs) :
    (l.calls cs).Blocked key deadline := by
  induction cs generalizing l with
  | nil => exact h
  | cons c cs ih =>
    obtain ⟨hlimit, hblockFor⟩ := l.call_config c
    have hcall : (l.call c).Blocked key deadline := by
      refine h.call (hearly c (List.mem_cons_self ..)) (hdeadline c (List.mem_cons_self ..)) ?_ ?_
      · rintro now rfl
        exact hsuccess now (List.mem_cons_self ..)
      · refine hsteady.imp_right fun hsteady now heq => ?_
        subst heq
        exact hsteady [] now cs rfl (hearly _ (List.mem_cons_self ..))
    refine ih hcall (fun c' hc' => hearly c' (List.mem_cons_of_mem _ hc')) ?_ ?_ ?_
    · intro c' hc'
      rw [hblockFor]
      exact hdeadline c' (List.mem_cons_of_mem _ hc')
    · exact fun now hmem => hsuccess now (List.mem_cons_of_mem _ hmem)
    · rw [hlimit]
      refine hsteady.imp_right fun hsteady pre now post heq hnow => ?_
      exact hsteady (c :: pre) now post (by rw [heq, List.cons_append]) hnow

theorem calls_append (l : RateLimiter) (pre : List Call) (c : Call) :
    l.calls (pre ++ [c]) = (l.calls pre).call c := by
  simp [calls]

theorem calls_config (l : RateLimiter) (cs : List Call) :
    (l.calls cs).limit = l.limit ∧ (l.calls cs).blockFor = l.blockFor := by
  induction cs generalizing l with
  | nil => exact ⟨rfl, rfl⟩
  | cons c cs ih =>
    obtain ⟨hlimit, hblockFor⟩ := l.call_config c
    obtain ⟨hlimit', hblockFor'⟩ := ih (l.call c)
    exact ⟨hlimit'.trans hlimit, hblockFor'.trans hblockFor⟩

/-- A failure that starts a new record lets the key in at once. -/
theorem allowed_of_lapsed (h : l.lapsed key now = true) (hlimit : 1 < l.limit) :
    ((l.fail now key).allowed now key).2 = none := by
  have hattempts : (l.fail now key).attempts key = ⟨1, now, 0⟩ := by
    rw [fail_attempts, failed_of_lapsed h hlimit]
  have hnot : ¬ (now : Int) < 0 := by omega
  unfold RateLimiter.allowed
  dsimp only
  rw [hattempts, if_neg hnot]
  split <;> rfl

section Deadline
variable {l : RateLimiter} {key : String} {since : Nat} {cs : List Call}

/-- A failure that finds the window passed lets the key in, so there is none before the deadline. -/
theorem Upheld.steady (hupheld : (l.fail since key).Upheld key since (since + l.blockFor) cs)
    (hlimit : ¬ l.limit ≤ 1) (hclock : (since :: cs.map Call.now).Pairwise (· ≤ ·)) :
    (l.fail since key).Steady key (since + l.blockFor) cs := by
  rw [List.pairwise_cons] at hclock
  obtain ⟨hsince, hclock⟩ := hclock
  by_contra hsteady
  unfold Steady at hsteady
  push Not at hsteady
  obtain ⟨pre, now, post, rfl, hnow, hlapsed⟩ := hsteady
  -- the failure itself is the last call before the key is let in
  have hprefix : pre ++ [Call.fail key now] <+: pre ++ Call.fail key now :: post := ⟨post, by simp⟩
  have hafter : ∀ c ∈ pre ++ [Call.fail key now], c.now ≤ now := by
    intro c hc
    rcases List.mem_append.1 hc with hc | hc
    · rw [List.map_append, List.pairwise_append] at hclock
      exact hclock.2.2 _ (List.mem_map_of_mem hc) _ (by simp [Call.now])
    · rw [List.mem_singleton.1 hc]
      exact Nat.le_refl _
  have hfrom : since ≤ now := hsince now (by simp [Call.now])
  have hrefused := hupheld _ hprefix now hfrom hafter hnow
  have hlimit' : 1 < ((l.fail since key).calls pre).limit := by
    rw [(calls_config _ pre).1]
    exact Int64.not_le.1 hlimit
  rw [calls_append] at hrefused
  rw [show (((l.fail since key).calls pre).call (.fail key now)) =
    ((l.fail since key).calls pre).fail now key from rfl,
    allowed_of_lapsed (by simpa using hlapsed) hlimit'] at hrefused
  cases hrefused

theorem upheld_of_steady (hset : l.limit ≤ (l.failed since key).count)
    (hclock : (since :: cs.map Call.now).Pairwise (· ≤ ·)) (hsuccess : ∀ now, .success key now ∉ cs)
    (hsteady : l.limit ≤ 1 ∨ (l.fail since key).Steady key (since + l.blockFor) cs) :
    (l.fail since key).Upheld key since (since + l.blockFor) cs := by
  rw [List.pairwise_cons] at hclock
  obtain ⟨hsince, -⟩ := hclock
  intro pre hprefix now hfrom hafter hnow
  obtain ⟨post, rfl⟩ := hprefix
  have hblocked : (l.fail since key).Blocked key (since + l.blockFor) :=
    blocked_of_failed hset (Int.le_refl _)
  have hpre : ((l.fail since key).calls pre).Blocked key (since + l.blockFor) := by
    refine hblocked.calls ?_ ?_ ?_ ?_
    · intro c hc
      have hle := hafter c hc
      omega
    · intro c hc
      have hle : since ≤ c.now :=
        hsince _ (List.mem_map_of_mem (List.mem_append_left _ hc))
      show (since : Int) + l.blockFor ≤ c.now + l.blockFor
      omega
    · exact fun now hmem => hsuccess now (List.mem_append_left _ hmem)
    · refine hsteady.imp_right fun hsteady pre' now' post' heq hnow' => ?_
      exact hsteady pre' now' (post' ++ post) (by rw [heq]; simp) hnow'
  rw [hpre.allowed hnow]

end Deadline

/-- **How long a block lasts, and for whom.** For every limiter, every failure of a key that reaches the
    limit, and all calls after it, for this key and for others, with clock readings that do not go back
    and without a success of the key: `Allowed` refuses the key at every time before the deadline,
    after all of these calls or the first of them, if and only if the limit is at most one or no
    failure of the key before the deadline finds its window passed. And whatever the calls are, what
    `Allowed` answers for a key is what it answers without the calls for the other keys. -/
theorem upheld_iff {l : RateLimiter} {key : String} {since : Nat} {cs : List Call}
    (hset : l.limit ≤ (l.failed since key).count)
    (hclock : (since :: cs.map Call.now).Pairwise (· ≤ ·))
    (hsuccess : ∀ now, .success key now ∉ cs) :
    ((l.fail since key).Upheld key since (since + l.blockFor) cs ↔
      l.limit ≤ 1 ∨ (l.fail since key).Steady key (since + l.blockFor) cs) ∧
    ∀ (l : RateLimiter) (key : String) (cs : List Call),
      answers key l cs = answers key l (cs.filter fun c => c.key = key) := by
  refine ⟨⟨fun hupheld => ?_, upheld_of_steady hset hclock hsuccess⟩,
    fun l key cs => (Agree.refl key l).answers cs⟩
  by_cases hlimit : l.limit ≤ 1
  · exact .inl hlimit
  · exact .inr (hupheld.steady hlimit hclock)

/-- Five failures, the last four 58 seconds after the first; a handshake that was let in before fails
    one second later, and another one three seconds later, when the window has passed. -/
def fifthFailure : RateLimiter :=
  Gate.serverLimiter.calls
    (.fail "10.0.0.1" Gate.second :: List.replicate 3 (.fail "10.0.0.1" (59 * Gate.second)))

/-- The block stands through a failure in the window, whatever comes for another host. -/
theorem fifthFailure_upheld :
    (fifthFailure.fail (59 * Gate.second) "10.0.0.1").Upheld "10.0.0.1" (59 * Gate.second)
      (89 * Gate.second)
      [.fail "10.0.0.1" (60 * Gate.second), .success "10.0.0.2" (70 * Gate.second)] := by
  refine (upheld_iff (l := fifthFailure) ?_ ?_ ?_).1.2 (.inr ?_)
  · decide +kernel
  · decide +kernel
  · intro now hmem
    simp at hmem
  · intro pre now post heq hnow
    match pre with
    | [] =>
      cases heq
      decide +kernel
    | [_] => cases heq
    | _ :: _ :: _ => simp at heq

/-- A failure after the window drops the block, and the host is let in 27 seconds early. -/
theorem fifthFailure_not_upheld :
    Gate.serverLimiter.limit ≤ (fifthFailure.failed (59 * Gate.second) "10.0.0.1").count ∧
      (((fifthFailure.fail (59 * Gate.second) "10.0.0.1").calls
        [.fail "10.0.0.1" (62 * Gate.second)]).allowed (62 * Gate.second) "10.0.0.1").2 = none ∧
      62 * Gate.second < 59 * Gate.second + Gate.serverLimiter.blockFor := by
  decide +kernel

end LnProxy.Auth.RateLimiter
