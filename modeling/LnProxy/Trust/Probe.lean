import LnProxy.Trust.StoreFile

set_option autoImplicit false

/-! # What the probe trusts (`memoryTrust`, `probe.connect`)

The probe keeps its trust in memory. With `--fingerprint` it accepts that fingerprint and no other.
Without, it shows the fingerprint of the server and asks; but once the user has said yes it asks no
more, whatever certificate comes next. `--transport auto` can come to that: the QUIC dial fails after
its certificate was accepted, and the TCP dial meets another one.

`unicode.ToUpper` and `ToLower` are parameters of which ASCII is known, and that what they change
becomes a letter that they leave. -/

namespace LnProxy.Trust.Probe

open Transition StoreFile UTF8

/-! ## Fingerprints are normalised once -/

/-- The case mappings of `unicode`. -/
structure CaseMapping extends Unicode where
  toUpper_toUpper : ∀ c, toUpper (toUpper c) = toUpper c
  toUpper_letter : ∀ c, toUpper c ≠ c → isSpace (toUpper c) = false
  toLower : Char → Char
  toLower_ascii : ∀ c, c.toNat < 128 → toLower c = c.toLower

section Normalize

variable (unicode : CaseMapping)

/-- A character after the two replacements. -/
def dashless (c : Char) : Char := if c = '-' then ':' else c

/-- What one character of a trimmed text becomes. -/
theorem normalizeFingerprint_eq (text : Text) : normalizeFingerprint unicode.toUnicode text =
    (((trim isSpace text).map unicode.toUpper).filter (· ≠ ' ')).map dashless := rfl

variable {unicode} {c : Char}

theorem isSpace_toUpper (h : isSpace c = false) : isSpace (unicode.toUpper c) = false := by
  by_cases hc : unicode.toUpper c = c
  · rw [hc]
    exact h
  · exact unicode.toUpper_letter c hc

theorem isSpace_dashless (h : isSpace c = false) : isSpace (dashless c) = false := by
  unfold dashless
  split
  · decide
  · exact h

theorem dashless_ne_dash (c : Char) : dashless c ≠ '-' := by
  unfold dashless
  split
  · decide
  · next h => exact h

theorem dashless_ne_blank (h : c ≠ ' ') : dashless c ≠ ' ' := by
  unfold dashless
  split
  · decide
  · exact h

theorem toUpper_dashless (h : unicode.toUpper c = c) : unicode.toUpper (dashless c) = dashless c := by
  unfold dashless
  split
  · exact unicode.toUpper_ascii ':' (by decide)
  · exact h

/-- The characters of a normalised fingerprint are left alone when it is normalised again. -/
theorem mem_normalizeFingerprint {text : Text}
    (h : c ∈ normalizeFingerprint unicode.toUnicode text) :
    unicode.toUpper c = c ∧ c ≠ ' ' ∧ c ≠ '-' := by
  rw [normalizeFingerprint_eq, List.mem_map] at h
  obtain ⟨d, hd, rfl⟩ := h
  obtain ⟨hd, hblank⟩ := List.mem_filter.1 hd
  obtain ⟨e, _, rfl⟩ := List.mem_map.1 hd
  have hne : unicode.toUpper e ≠ ' ' := by simpa using hblank
  exact ⟨toUpper_dashless (unicode.toUpper_toUpper e), dashless_ne_blank hne, dashless_ne_dash _⟩

/-- Mapping and filtering keep a first character that is no space. -/
theorem head?_normalized {text : Text} (hhead : ∀ d, text.head? = some d → isSpace d = false)
    (h : (((text.map unicode.toUpper).filter (· ≠ ' ')).map dashless).head? = some c) :
    isSpace c = false := by
  cases text with
  | nil => cases h
  | cons d text =>
    have hd : isSpace (unicode.toUpper d) = false := isSpace_toUpper (hhead d rfl)
    have hblank : unicode.toUpper d ≠ ' ' := by
      intro heq
      rw [heq] at hd
      exact absurd hd (by decide)
    rw [List.map_cons, List.filter_cons_of_pos (by simpa using hblank), List.map_cons,
      List.head?_cons, Option.some.injEq] at h
    rw [← h]
    exact isSpace_dashless hd

theorem normalizeFingerprint_idem (text : Text) :
    normalizeFingerprint unicode.toUnicode (normalizeFingerprint unicode.toUnicode text) =
      normalizeFingerprint unicode.toUnicode text := by
  obtain ⟨hhead, hlast⟩ := trim_ends isSpace text
  have hends : trim isSpace (normalizeFingerprint unicode.toUnicode text) =
      normalizeFingerprint unicode.toUnicode text := by
    refine trim_eq_self_of_ends (fun c hc => ?_) fun c hc => ?_
    · exact head?_normalized hhead hc
    · -- the last character is the first one of the reversed text
      rw [← List.head?_reverse, normalizeFingerprint_eq, ← List.map_reverse, ← List.filter_reverse,
        ← List.map_reverse] at hc
      refine head?_normalized (fun d hd => hlast d ?_) hc
      rwa [List.head?_reverse] at hd
  have hupper : (normalizeFingerprint unicode.toUnicode text).map unicode.toUpper =
      normalizeFingerprint unicode.toUnicode text :=
    (List.map_congr_left fun c hc => (mem_normalizeFingerprint hc).1).trans (List.map_id _)
  have hblank : (normalizeFingerprint unicode.toUnicode text).filter (· ≠ ' ') =
      normalizeFingerprint unicode.toUnicode text :=
    List.filter_eq_self.2 fun c hc => decide_eq_true (mem_normalizeFingerprint hc).2.1
  have hdash : (normalizeFingerprint unicode.toUnicode text).map dashless =
      normalizeFingerprint unicode.toUnicode text :=
    (List.map_congr_left fun c hc => if_neg (mem_normalizeFingerprint hc).2.2).trans (List.map_id _)
  rw [normalizeFingerprint_eq unicode (normalizeFingerprint unicode.toUnicode text), hends, hupper,
    hblank, hdash]

theorem normalize_normalize (fingerprint : Bytes) :
    normalizeBytes unicode.toUnicode (normalizeBytes unicode.toUnicode fingerprint) =
      normalizeBytes unicode.toUnicode fingerprint := by
  unfold normalizeBytes
  rw [UTF8.coerce_encode, normalizeFingerprint_idem]

end Normalize

/-! ## The trust in memory -/

structure MemoryTrust where
  expected : Bytes
  fingerprint : Bytes
  confirmed : Bool
  deriving DecidableEq, Repr

variable (unicode : CaseMapping)

def newMemoryTrust (expected : Bytes) : MemoryTrust :=
  ⟨normalizeBytes unicode.toUnicode expected, [], false⟩

/-- A call of `Save`, and what `Fscanln` comes to if it asks. -/
structure Call where
  fingerprint : Bytes
  answer : Except Err Bytes

/-- `y` or `yes` -/
def saysYes (answer : Bytes) : Bool :=
  let answer := (trim isSpace (UTF8.coerce answer)).map unicode.toLower
  decide (answer = ['y'] ∨ answer = ['y', 'e', 's'])

/-- What a `Save` comes to: what it has shown to the user, and its error. -/
structure Saved where
  trust : MemoryTrust
  shown : Option Bytes
  err : Option Err

def MemoryTrust.save (t : MemoryTrust) (call : Call) : Saved :=
  let fingerprint := normalizeBytes unicode.toUnicode call.fingerprint
  if t.expected ≠ [] ∧ equal unicode.toUnicode t.expected fingerprint = false then
    ⟨t, none, some (.message ("server certificate fingerprint mismatch: expected " ++
      UTF8.shown t.expected ++ ", got " ++ UTF8.shown fingerprint))⟩
  else
    let t := { t with fingerprint := fingerprint }
    if t.confirmed = true ∨ t.expected ≠ [] then ⟨{ t with confirmed := true }, none, none⟩
    else
      match call.answer with
      | .error err => ⟨t, some fingerprint, some err⟩
      | .ok answer =>
        if saysYes unicode answer then ⟨{ t with confirmed := true }, some fingerprint, none⟩
        else ⟨t, some fingerprint,
          some (.message "server certificate fingerprint was not accepted")⟩

/-! ## Sequences of calls -/

/-- The user answers yes, if asked. -/
def Call.yes (call : Call) : Bool :=
  match call.answer with
  | .ok answer => saysYes unicode answer
  | .error _ => false

/-- The trust, what the user was shown and answered yes to, and what `Save` has accepted. -/
structure Run where
  trust : MemoryTrust
  agreed : List Bytes
  accepted : List Bytes

def start (expected : Bytes) : Run := ⟨newMemoryTrust unicode expected, [], []⟩

def Run.save (r : Run) (call : Call) : Run × Option Err :=
  let saved := r.trust.save unicode call
  let agreed := if call.yes unicode then saved.shown.toList ++ r.agreed else r.agreed
  match saved.err with
  | some err => (⟨saved.trust, agreed, r.accepted⟩, some err)
  | none => (⟨saved.trust, agreed, call.fingerprint :: r.accepted⟩, none)

def step (r : Run) (call : Call) : Option Run := some (r.save unicode call).1

/-- A fingerprint the probe may accept: the expected one, or without one, one that the user was shown
    and answered yes to. -/
def Trusted (expected : Bytes) (r : Run) (fingerprint : Bytes) : Prop :=
  normalizeBytes unicode.toUnicode expected ≠ [] ∧ equal unicode.toUnicode expected fingerprint = true ∨
    normalizeBytes unicode.toUnicode expected = [] ∧
      ∃ shown ∈ r.agreed, equal unicode.toUnicode shown fingerprint = true

/-- After the first call with the answer yes every call has its fingerprint. -/
def Steady : List Call → Prop
  | [] => True
  | call :: calls =>
    if call.yes unicode then
      ∀ later ∈ calls, equal unicode.toUnicode call.fingerprint later.fingerprint = true
    else Steady calls

variable {unicode}

theorem equal_iff {a b : Bytes} : equal unicode.toUnicode a b = true ↔
    normalizeBytes unicode.toUnicode a = normalizeBytes unicode.toUnicode b := decide_eq_true_iff

theorem equal_normalize (a b : Bytes) : equal unicode.toUnicode (normalizeBytes unicode.toUnicode a) b =
    equal unicode.toUnicode a b := by
  rw [Bool.eq_iff_iff, equal_iff, equal_iff, normalize_normalize]

/-- What a call comes to: it is refused and changes nothing but the last fingerprint; or it is
    accepted, as the expected fingerprint, as one that the user was shown and said yes to, or because
    something was confirmed before. -/
inductive Saves (unicode : CaseMapping) (r : Run) (call : Call) : Run × Option Err → Prop where
  | refused (trust : MemoryTrust) (err : Err) (htrust : trust.expected = r.trust.expected)
      (hconfirmed : trust.confirmed = r.trust.confirmed)
      (hasked : r.trust.expected = [] → r.trust.confirmed = false ∧ call.yes unicode = false) :
      Saves unicode r call ({ r with trust := trust }, some err)
  | expected (trust : MemoryTrust) (hsome : r.trust.expected ≠ [])
      (htrust : trust.expected = r.trust.expected)
      (hequal : equal unicode.toUnicode r.trust.expected call.fingerprint = true) :
      Saves unicode r call
        ({ r with trust := trust, accepted := call.fingerprint :: r.accepted }, none)
  | confirmed (trust : MemoryTrust) (hnone : r.trust.expected = [])
      (htrust : trust.expected = []) (hconfirmed : trust.confirmed = true)
      (hbefore : r.trust.confirmed = false) (hyes : call.yes unicode = true) :
      Saves unicode r call (⟨trust, normalizeBytes unicode.toUnicode call.fingerprint :: r.agreed,
        call.fingerprint :: r.accepted⟩, none)
  | unasked (trust : MemoryTrust) (hnone : r.trust.expected = [])
      (htrust : trust.expected = []) (hconfirmed : trust.confirmed = true)
      (hbefore : r.trust.confirmed = true) :
      Saves unicode r call
        ({ r with trust := trust, accepted := call.fingerprint :: r.accepted }, none)

/-- **Inversion of a call.** -/
theorem save_saves (r : Run) (call : Call) : Saves unicode r call (r.save unicode call) := by
  unfold Run.save MemoryTrust.save
  simp only
  by_cases hmismatch : r.trust.expected ≠ [] ∧
      equal unicode.toUnicode r.trust.expected (normalizeBytes unicode.toUnicode call.fingerprint) = false
  · rw [if_pos hmismatch]
    simp only [Option.toList_none, List.nil_append, ite_self]
    exact .refused _ _ rfl rfl fun hnone => absurd hnone hmismatch.1
  · rw [if_neg hmismatch]
    by_cases hexpected : r.trust.expected = []
    · cases hconfirmed : r.trust.confirmed with
      | true =>
        rw [if_pos (Or.inl rfl)]
        simp only [Option.toList_none, List.nil_append, ite_self]
        exact .unasked _ hexpected hexpected rfl hconfirmed
      | false =>
        rw [if_neg (by simp [hexpected])]
        cases hanswer : call.answer with
        | error err =>
          have hno : call.yes unicode = false := by simp [Call.yes, hanswer]
          simp only [hno]
          exact .refused _ err rfl hconfirmed.symm fun _ => ⟨hconfirmed, hno⟩
        | ok answer =>
          have heq : call.yes unicode = saysYes unicode answer := by simp [Call.yes, hanswer]
          simp only [← heq]
          cases hyes : call.yes unicode with
          | false => exact .refused _ _ rfl hconfirmed.symm fun _ => ⟨hconfirmed, hyes⟩
          | true => exact .confirmed _ hexpected hexpected rfl hconfirmed hyes
    · have hequal : equal unicode.toUnicode r.trust.expected call.fingerprint = true := by
        have hsame : equal unicode.toUnicode r.trust.expected
            (normalizeBytes unicode.toUnicode call.fingerprint) = true := by
          by_contra hne
          exact hmismatch ⟨hexpected, by simpa using hne⟩
        rw [equal_iff, normalize_normalize] at hsame
        exact equal_iff.2 hsame
      rw [if_pos (Or.inr hexpected)]
      simp only [Option.toList_none, List.nil_append, ite_self]
      exact .expected _ hexpected rfl hequal

/-- The trust keeps the expected fingerprint. Without one it has confirmed what the user has said yes
    to, which is one fingerprint at most; with one it accepts nothing else. -/
structure Inv (unicode : CaseMapping) (expected : Bytes) (r : Run) : Prop where
  expected : r.trust.expected = normalizeBytes unicode.toUnicode expected
  agreed : r.trust.expected = [] → r.trust.confirmed = false → r.agreed = [] ∧ r.accepted = []
  confirmed : r.trust.expected = [] → r.trust.confirmed = true → ∃ shown, r.agreed = [shown]
  pinned : r.trust.expected ≠ [] → ∀ fingerprint ∈ r.accepted,
    equal unicode.toUnicode r.trust.expected fingerprint = true

section Sequences

variable {expected : Bytes} {r r' : Run} {call : Call} {calls : List Call} {err : Option Err}

theorem start_inv (expected : Bytes) : Inv unicode expected (start unicode expected) where
  expected := rfl
  agreed := fun _ _ => ⟨rfl, rfl⟩
  confirmed := nofun
  pinned := fun _ _ hmem => nomatch hmem

theorem Inv.saves (hinv : Inv unicode expected r) (h : Saves unicode r call (r', err)) :
    Inv unicode expected r' := by
  cases h with
  | refused trust err htrust hconfirmed hasked =>
    refine ⟨htrust.trans hinv.expected, fun hnone hfalse => ?_, fun hnone htrue => ?_,
      fun hsome => ?_⟩
    · exact hinv.agreed (htrust ▸ hnone) (hconfirmed ▸ hfalse)
    · exact hinv.confirmed (htrust ▸ hnone) (hconfirmed ▸ htrue)
    · simp only [htrust] at hsome ⊢
      exact hinv.pinned hsome
  | expected trust hsome htrust hequal =>
    refine ⟨htrust.trans hinv.expected, fun hnone => absurd (htrust ▸ hnone) hsome,
      fun hnone => absurd (htrust ▸ hnone) hsome, fun _ fingerprint hmem => ?_⟩
    simp only [htrust]
    rcases List.mem_cons.1 hmem with rfl | hmem
    · exact hequal
    · exact hinv.pinned hsome fingerprint hmem
  | confirmed trust hnone htrust hconfirmed hbefore hyes =>
    refine ⟨htrust.trans (hnone ▸ hinv.expected), fun _ hfalse => ?_,
      fun _ _ => ⟨normalizeBytes unicode.toUnicode call.fingerprint, ?_⟩,
      fun hsome => absurd htrust hsome⟩
    · rw [hconfirmed] at hfalse
      cases hfalse
    · simp only [(hinv.agreed hnone hbefore).1]
  | unasked trust hnone htrust hconfirmed hbefore =>
    refine ⟨htrust.trans (hnone ▸ hinv.expected), fun _ hfalse => ?_, fun _ _ => ?_,
      fun hsome => absurd htrust hsome⟩
    · rw [hconfirmed] at hfalse
      cases hfalse
    · exact hinv.confirmed hnone hbefore

/-- With an expected fingerprint nothing else is accepted. -/
theorem Inv.trusted_of_expected (hinv : Inv unicode expected r)
    (hsome : normalizeBytes unicode.toUnicode expected ≠ []) {fingerprint : Bytes}
    (hmem : fingerprint ∈ r.accepted) : Trusted unicode expected r fingerprint := by
  have hequal := hinv.pinned (by rw [hinv.expected]; exact hsome) fingerprint hmem
  rw [hinv.expected, equal_normalize] at hequal
  exact Or.inl ⟨hsome, hequal⟩

/-- What is trusted stays so when the user says yes to more. -/
theorem Trusted.mono {fingerprint : Bytes} (h : Trusted unicode expected r fingerprint)
    (hagreed : ∀ shown ∈ r.agreed, shown ∈ r'.agreed) : Trusted unicode expected r' fingerprint := by
  rcases h with h | ⟨hnone, shown, hmem, hequal⟩
  · exact Or.inl h
  · exact Or.inr ⟨hnone, shown, hagreed shown hmem, hequal⟩

/-- After an acceptance it is enough to look at the new fingerprint. -/
theorem forall_accepted_iff
    (hall : ∀ fingerprint ∈ r.accepted, Trusted unicode expected r fingerprint)
    (haccepted : r'.accepted = call.fingerprint :: r.accepted)
    (hagreed : ∀ shown ∈ r.agreed, shown ∈ r'.agreed) :
    (∀ fingerprint ∈ r'.accepted, Trusted unicode expected r' fingerprint) ↔
      Trusted unicode expected r' call.fingerprint := by
  rw [haccepted]
  constructor
  · intro h
    exact h call.fingerprint (List.mem_cons_self ..)
  · intro h fingerprint hmem
    rcases List.mem_cons.1 hmem with rfl | hmem
    · exact h
    · exact (hall fingerprint hmem).mono hagreed

/-- The call comes to a trust that asks, or it brings a fingerprint that the user has said yes to. -/
def Asks (unicode : CaseMapping) (r : Run) (call : Call) : Prop :=
  r.trust.expected = [] → r.trust.confirmed = true →
    ∃ shown ∈ r.agreed, equal unicode.toUnicode shown call.fingerprint = true

/-- A call keeps acceptance to what is trusted exactly if it asks where it must. -/
theorem asks_iff (hinv : Inv unicode expected r)
    (hall : ∀ fingerprint ∈ r.accepted, Trusted unicode expected r fingerprint)
    (h : Saves unicode r call (r', err)) :
    Asks unicode r call ↔ ∀ fingerprint ∈ r'.accepted, Trusted unicode expected r' fingerprint := by
  have hinv' := hinv.saves h
  have hexpected := hinv.expected
  cases h with
  | refused trust err htrust hconfirmed hasked =>
    refine iff_of_true (fun hnone htrue => ?_) hall
    rw [(hasked hnone).1] at htrue
    cases htrue
  | expected trust hsome htrust hequal =>
    exact iff_of_true (fun hnone => absurd hnone hsome)
      fun fingerprint hmem => hinv'.trusted_of_expected (hexpected ▸ hsome) hmem
  | confirmed trust hnone htrust hconfirmed hbefore hyes =>
    refine Iff.trans ?_
      (forall_accepted_iff hall rfl fun _ hmem => List.mem_cons_of_mem _ hmem).symm
    refine iff_of_true (fun _ htrue => ?_) (Or.inr ⟨hexpected ▸ hnone, _, List.mem_cons_self .., ?_⟩)
    · rw [hbefore] at htrue
      cases htrue
    · exact equal_iff.2 (normalize_normalize call.fingerprint)
  | unasked trust hnone htrust hconfirmed hbefore =>
    have hnew := @forall_accepted_iff unicode expected r
      ⟨trust, r.agreed, call.fingerprint :: r.accepted⟩ call hall rfl fun _ hmem => hmem
    refine Iff.trans ?_ hnew.symm
    constructor
    · intro hasks
      exact Or.inr ⟨hexpected ▸ hnone, hasks hnone hbefore⟩
    · intro htrusted _ _
      rcases htrusted with ⟨hsome, _⟩ | ⟨_, hagreed⟩
      · exact absurd (hexpected ▸ hnone) hsome
      · exact hagreed

theorem along_cons : Along (step unicode) (Asks unicode) r (call :: calls) ↔
    Asks unicode r call ∧ Along (step unicode) (Asks unicode) (r.save unicode call).1 calls := by
  simp [Along, step]

theorem along_of_expected (hsome : r.trust.expected ≠ []) :
    Along (step unicode) (Asks unicode) r calls := by
  induction calls generalizing r with
  | nil => trivial
  | cons call calls ih =>
    refine along_cons.2 ⟨fun hnone => absurd hnone hsome, ih ?_⟩
    have hsaves := @save_saves unicode r call
    generalize r.save unicode call = result at hsaves
    cases hsaves with
    | refused trust err htrust _ _ => exact htrust ▸ hsome
    | expected trust _ htrust _ => exact htrust ▸ hsome
    | confirmed trust hnone _ _ _ _ => exact absurd hnone hsome
    | unasked trust hnone _ _ _ => exact absurd hnone hsome

/-- After a confirmation nobody is asked, so every fingerprint must be the one the user has seen. -/
theorem along_confirmed_iff {shown : Bytes} (hnone : r.trust.expected = [])
    (hconfirmed : r.trust.confirmed = true) (hagreed : r.agreed = [shown]) :
    Along (step unicode) (Asks unicode) r calls ↔
      ∀ later ∈ calls, equal unicode.toUnicode shown later.fingerprint = true := by
  induction calls generalizing r with
  | nil => simp [Along]
  | cons call calls ih =>
    have hasks : Asks unicode r call ↔ equal unicode.toUnicode shown call.fingerprint = true := by
      simp [Asks, hnone, hconfirmed, hagreed]
    rw [along_cons, List.forall_mem_cons, hasks]
    refine and_congr_right fun _ => ?_
    have hsaves := @save_saves unicode r call
    generalize r.save unicode call = result at hsaves
    cases hsaves with
    | refused trust err _ _ hasked =>
      rw [(hasked hnone).1] at hconfirmed
      cases hconfirmed
    | expected trust hsome _ _ => exact absurd hnone hsome
    | confirmed trust _ _ _ hbefore _ =>
      rw [hbefore] at hconfirmed
      cases hconfirmed
    | unasked trust _ htrust hconfirmed _ => exact ih htrust hconfirmed hagreed

theorem along_steady_iff (hnone : r.trust.expected = []) (hconfirmed : r.trust.confirmed = false)
    (hagreed : r.agreed = []) :
    Along (step unicode) (Asks unicode) r calls ↔ Steady unicode calls := by
  induction calls generalizing r with
  | nil => simp [Along, Steady]
  | cons call calls ih =>
    have hasks : Asks unicode r call := fun _ htrue => by simp [hconfirmed] at htrue
    rw [along_cons, Steady]
    refine (and_iff_right hasks).trans ?_
    have hsaves := @save_saves unicode r call
    generalize r.save unicode call = result at hsaves
    cases hsaves with
    | refused trust err htrust hconf hasked =>
      rw [if_neg (by simp [(hasked hnone).2])]
      exact ih (htrust.trans hnone) (hconf.trans hconfirmed) hagreed
    | expected trust hsome _ _ => exact absurd hnone hsome
    | confirmed trust _ htrust hconf _ hyes =>
      rw [if_pos hyes, along_confirmed_iff htrust hconf (by rw [hagreed])]
      simp only [equal_normalize]
    | unasked trust _ _ _ hbefore =>
      rw [hbefore] at hconfirmed
      cases hconfirmed

/-- `Save` always comes to an end. -/
theorem exec_isSome (r : Run) (calls : List Call) : ∃ r', exec (step unicode) r calls = some r' := by
  induction calls generalizing r with
  | nil => exact ⟨r, rfl⟩
  | cons call calls ih => exact ih (r.save unicode call).1

/-- Whatever has been accepted at any point of a sequence of calls is trusted exactly if a fingerprint
    is expected, or every call after the first yes has its fingerprint. -/
theorem accepted_trusted_iff (expected : Bytes) (calls : List Call) :
    (∀ before r, before <+: calls → exec (step unicode) (start unicode expected) before = some r →
      ∀ fingerprint ∈ r.accepted, Trusted unicode expected r fingerprint) ↔
    normalizeBytes unicode.toUnicode expected ≠ [] ∨ Steady unicode calls := by
  obtain ⟨r, hrun⟩ := @exec_isSome unicode (start unicode expected) calls
  have hstep : ∀ m call m', step unicode m call = some m' →
      Saves unicode m call (m', (m.save unicode call).2) := by
    intro m call m' h
    cases h
    exact save_saves m call
  rw [← along_iff (Inv unicode expected) _ (fun _ _ _ hinv h => hinv.saves (hstep _ _ _ h))
    (fun _ _ _ hinv hall h => asks_iff hinv hall (hstep _ _ _ h)) (start_inv expected)
    (fun _ hmem => nomatch hmem) hrun]
  by_cases hnone : normalizeBytes unicode.toUnicode expected = []
  · rw [along_steady_iff hnone rfl rfl]
    simp [hnone]
  · exact iff_of_true (along_of_expected hnone) (Or.inl hnone)

end Sequences

/-! ## Connecting -/

inductive Transport where
  | auto | quic | tcp
  deriving DecidableEq, Repr

/-- How a dial goes: the certificates the server presents, unless the dial fails before, the answer
    to the question if there is one, and the error after the certificate was accepted. -/
structure Dial where
  certificates : Except Err (List Bytes)
  answer : Except Err Bytes
  failure : Option Err

variable (unicode) (sum256 : Bytes → Vector UInt8 32)

/-- `Fingerprint` as a Go string -/
def printed (raw : Bytes) : Bytes := UTF8.encode (fingerprint (sum256 raw).toList)

/-- `VerifyConnection` of `ClientTLSConfig("", trust, host)`. -/
def verifyConnection (r : Run) (certificates : List Bytes) (answer : Except Err Bytes) :
    Run × Except Err Bytes :=
  match certificates with
  | [] => (r, .error (.message "server did not present a certificate"))
  | raw :: _ =>
    match r.save unicode ⟨printed sum256 raw, answer⟩ with
    | (r, some err) => (r, .error err)
    | (r, none) => (r, .ok raw)

/-- `DialQUIC` and `DialTLS`, to the certificate of the connection. -/
def dial (r : Run) (d : Dial) : Run × Except Err Bytes :=
  match d.certificates with
  | .error err => (r, .error err)
  | .ok certificates =>
    match verifyConnection unicode sum256 r certificates d.answer with
    | (r, .error err) => (r, .error err)
    | (r, .ok raw) =>
      match d.failure with
      | some err => (r, .error err)
      | none => (r, .ok raw)

/-- The stage an error names. -/
inductive Stage where
  | quicDial | quicControlStream | tcpDial
  deriving DecidableEq, Repr

/-- `connectQUIC`; `control` is the error of `OpenControlStream`. -/
def connectQUIC (r : Run) (d : Dial) (control : Option Err) : Run × Except (Stage × Err) Bytes :=
  match dial unicode sum256 r d with
  | (r, .error err) => (r, .error (.quicDial, err))
  | (r, .ok raw) =>
    match control with
    | some err => (r, .error (.quicControlStream, err))
    | none => (r, .ok raw)

def connectTCP (r : Run) (d : Dial) : Run × Except (Stage × Err) Bytes :=
  match dial unicode sum256 r d with
  | (r, .error err) => (r, .error (.tcpDial, err))
  | (r, .ok raw) => (r, .ok raw)

def connect (transport : Transport) (r : Run) (quic : Dial) (control : Option Err) (tcp : Dial) :
    Run × Except (Stage × Err) Bytes :=
  match transport with
  | .quic => connectQUIC unicode sum256 r quic control
  | .tcp => connectTCP unicode sum256 r tcp
  | .auto =>
    match connectQUIC unicode sum256 r quic control with
    | (r, .ok raw) => (r, .ok raw)
    | (r, .error (stage, err)) =>
      if stage = .quicControlStream then (r, .error (stage, err))
      else connectTCP unicode sum256 r tcp

/-- The dials of `auto` meet two certificates: the user says yes to the first, its dial fails all the
    same, and the second has another fingerprint. -/
def switches (transport : Transport) (quic tcp : Dial) : Bool :=
  match transport, quic.certificates, tcp.certificates with
  | .auto, .ok (first :: _), .ok (second :: _) =>
    Call.yes unicode ⟨printed sum256 first, quic.answer⟩ && quic.failure.isSome &&
      !equal unicode.toUnicode (printed sum256 first) (printed sum256 second)
  | _, _, _ => false

variable {unicode sum256}

/-- How a dial ends. -/
inductive Dialled (unicode : CaseMapping) (sum256 : Bytes → Vector UInt8 32) (r : Run) (d : Dial) :
    Run × Except Err Bytes → Prop where
  | early (err : Err) (h : ∀ raw rest, d.certificates ≠ .ok (raw :: rest)) :
      Dialled unicode sum256 r d (r, .error err)
  | refused {raw : Bytes} {rest : List Bytes} {r' : Run} {err : Err}
      (h : d.certificates = .ok (raw :: rest))
      (hsaves : Saves unicode r ⟨printed sum256 raw, d.answer⟩ (r', some err)) :
      Dialled unicode sum256 r d (r', .error err)
  | failed {raw : Bytes} {rest : List Bytes} {r' : Run} {err : Err}
      (h : d.certificates = .ok (raw :: rest))
      (hsaves : Saves unicode r ⟨printed sum256 raw, d.answer⟩ (r', none))
      (hfailure : d.failure = some err) : Dialled unicode sum256 r d (r', .error err)
  | connected {raw : Bytes} {rest : List Bytes} {r' : Run}
      (h : d.certificates = .ok (raw :: rest))
      (hsaves : Saves unicode r ⟨printed sum256 raw, d.answer⟩ (r', none))
      (hfailure : d.failure = none) : Dialled unicode sum256 r d (r', .ok raw)

section Connect

variable {r r' : Run} {raw : Bytes} {expected : Bytes} {transport : Transport} {quic tcp : Dial}
  {control : Option Err}

theorem dial_dialled (r : Run) (d : Dial) :
    Dialled unicode sum256 r d (dial unicode sum256 r d) := by
  unfold dial
  cases hcertificates : d.certificates with
  | error err => exact .early err (by simp [hcertificates])
  | ok certificates =>
    cases certificates with
    | nil => exact .early _ (by simp [hcertificates])
    | cons raw rest =>
      have hsaves := @save_saves unicode r ⟨printed sum256 raw, d.answer⟩
      simp only [verifyConnection]
      generalize r.save unicode ⟨printed sum256 raw, d.answer⟩ = result at hsaves
      obtain ⟨r', _ | err⟩ := result
      · cases hfailure : d.failure with
        | none => exact .connected hcertificates hsaves hfailure
        | some err => exact .failed hcertificates hsaves hfailure
      · exact .refused hcertificates hsaves

theorem connectTCP_ok {d : Dial} (h : connectTCP unicode sum256 r d = (r', .ok raw)) :
    dial unicode sum256 r d = (r', .ok raw) := by
  unfold connectTCP at h
  generalize dial unicode sum256 r d = result at h ⊢
  obtain ⟨r₁, _ | raw₁⟩ := result <;> cases h
  rfl

theorem connectQUIC_ok {d : Dial} (h : connectQUIC unicode sum256 r d control = (r', .ok raw)) :
    dial unicode sum256 r d = (r', .ok raw) := by
  unfold connectQUIC at h
  generalize dial unicode sum256 r d = result at h ⊢
  obtain ⟨r₁, _ | raw₁⟩ := result
  · cases h
  · cases control <;> cases h
    rfl

/-- A connection comes from one dial, or from the TCP dial after the QUIC dial has failed. -/
theorem connect_ok (h : connect unicode sum256 transport r quic control tcp = (r', .ok raw)) :
    (∃ d, dial unicode sum256 r d = (r', .ok raw) ∧ (transport = .auto → d = quic)) ∨
      transport = .auto ∧ ∃ r₁ err, dial unicode sum256 r quic = (r₁, .error err) ∧
        dial unicode sum256 r₁ tcp = (r', .ok raw) := by
  cases transport with
  | quic => exact Or.inl ⟨quic, connectQUIC_ok h, nofun⟩
  | tcp => exact Or.inl ⟨tcp, connectTCP_ok h, nofun⟩
  | auto =>
    unfold connect at h
    simp only at h
    cases hquic : connectQUIC unicode sum256 r quic control with
    | mk r₁ result =>
      rw [hquic] at h
      cases result with
      | ok raw₁ =>
        cases h
        exact Or.inl ⟨quic, connectQUIC_ok hquic, fun _ => rfl⟩
      | error stageErr =>
        obtain ⟨stage, err⟩ := stageErr
        simp only at h
        split at h
        · cases h
        · next hstage =>
          refine Or.inr ⟨rfl, r₁, err, ?_, connectTCP_ok h⟩
          unfold connectQUIC at hquic
          generalize dial unicode sum256 r quic = result at hquic ⊢
          obtain ⟨r₂, _ | raw₂⟩ := result
          · cases hquic
            rfl
          · cases control <;> cases hquic
            exact absurd rfl hstage

/-- What is accepted by a trust that asks, or that expects a fingerprint, is trusted. -/
theorem trusted_of_asked {fingerprint : Bytes} {answer : Except Err Bytes}
    (hinv : Inv unicode expected r) (hasked : r.trust.expected = [] → r.trust.confirmed = false)
    (h : Saves unicode r ⟨fingerprint, answer⟩ (r', none)) :
    Trusted unicode expected r' fingerprint := by
  have hinv' := hinv.saves h
  cases h with
  | expected trust hsome _ _ =>
    exact hinv'.trusted_of_expected (hinv.expected ▸ hsome) (List.mem_cons_self ..)
  | confirmed trust hnone _ _ _ _ =>
    exact Or.inr ⟨hinv.expected ▸ hnone, _, List.mem_cons_self .., by rw [equal_normalize, equal_iff]⟩
  | unasked trust hnone _ _ hbefore =>
    rw [hasked hnone] at hbefore
    cases hbefore

/-- The user was asked over QUIC, and nobody is asked over TCP. -/
theorem fallback_trusted_iff {first second : Bytes} {rest rest' : List Bytes} {r₁ : Run}
    (hnone : normalizeBytes unicode.toUnicode expected = [])
    (hquic : quic.certificates = .ok (first :: rest)) (hfailure : quic.failure.isSome = true)
    (htcp : tcp.certificates = .ok (second :: rest'))
    (hsaves : Saves unicode (start unicode expected) ⟨printed sum256 first, quic.answer⟩ (r₁, none))
    (hsaves' : Saves unicode r₁ ⟨printed sum256 second, tcp.answer⟩ (r, none)) :
    Trusted unicode expected r (printed sum256 second) ↔
      switches unicode sum256 .auto quic tcp = false := by
  cases hsaves with
  | expected trust hsome _ _ => exact absurd hnone hsome
  | unasked trust _ _ _ hbefore => cases hbefore
  | confirmed trust _ htrust hconfirmed _ hyes =>
    have hswitches : switches unicode sum256 .auto quic tcp =
        !equal unicode.toUnicode (printed sum256 first) (printed sum256 second) := by
      simp [switches, hquic, htcp, hyes, hfailure]
    rw [hswitches, Bool.not_eq_false']
    cases hsaves' with
    | expected trust' hsome _ _ => exact absurd htrust hsome
    | confirmed trust' _ _ _ hbefore _ =>
      rw [show trust.confirmed = false from hbefore] at hconfirmed
      cases hconfirmed
    | unasked trust' _ _ _ _ => simp [Trusted, hnone, start, equal_normalize]

/-- The certificate of a connection is trusted exactly if a fingerprint is expected, or the dials do
    not meet another certificate after a yes. -/
theorem connect_trusted_iff
    (h : connect unicode sum256 transport (start unicode expected) quic control tcp = (r, .ok raw)) :
    Trusted unicode expected r (printed sum256 raw) ↔ normalizeBytes unicode.toUnicode expected ≠ [] ∨
      switches unicode sum256 transport quic tcp = false := by
  have hinv := @start_inv unicode expected
  rcases connect_ok h with ⟨d, hdial, hd⟩ | ⟨rfl, r₁, err, hquic, htcp⟩
  · have hdialled := @dial_dialled unicode sum256 (start unicode expected) d
    rw [hdial] at hdialled
    cases hdialled with
    | connected hcertificates hsaves hfailure =>
      refine iff_of_true (trusted_of_asked hinv (fun _ => rfl) hsaves) (Or.inr ?_)
      cases transport with
      | quic | tcp => rfl
      | auto =>
        obtain rfl := hd rfl
        simp only [switches]
        split <;> simp [hfailure]
  · have hfirst := @dial_dialled unicode sum256 (start unicode expected) quic
    rw [hquic] at hfirst
    have hsecond := @dial_dialled unicode sum256 r₁ tcp
    rw [htcp] at hsecond
    cases hsecond with
    | connected hsecond hsaves' _ =>
      cases hfirst with
      | early _ hnone =>
        refine iff_of_true (trusted_of_asked hinv (fun _ => rfl) hsaves') (Or.inr ?_)
        unfold switches
        split
        · next first rest _ _ _ hfirst _ => exact absurd hfirst (hnone first rest)
        · rfl
      | refused hfirst hsaves =>
        have hinv₁ := hinv.saves hsaves
        cases hsaves with
        | refused trust _ htrust hconfirmed hasked =>
          refine iff_of_true (trusted_of_asked hinv₁ (fun _ => hconfirmed) hsaves') ?_
          by_cases hnone : normalizeBytes unicode.toUnicode expected = []
          · exact Or.inr (by simp [switches, hfirst, hsecond, (hasked hnone).2])
          · exact Or.inl hnone
      | failed hfirst hsaves hfailure =>
        by_cases hnone : normalizeBytes unicode.toUnicode expected = []
        · rw [fallback_trusted_iff hnone hfirst (by simp [hfailure]) hsecond hsaves hsaves']
          simp [hnone]
        · refine iff_of_true (trusted_of_asked (hinv.saves hsaves) (fun hempty => ?_) hsaves')
            (Or.inl hnone)
          exact absurd ((hinv.saves hsaves).expected.symm.trans hempty) hnone

end Connect

/-- **What the probe trusts.** Take any expected fingerprint, or none. Over any sequence of calls of
    `Save` with any answers, whatever has been accepted at any point is the expected fingerprint, or
    one that the user was shown and answered yes to, exactly if one is expected or every call after the
    first yes has its fingerprint. And the certificate the probe connects to is trusted exactly if a
    fingerprint is expected, or the fallback does not come from a certificate that the user said yes to
    to another one. -/
theorem probe_trusted_iff (unicode : CaseMapping) (sum256 : Bytes → Vector UInt8 32)
    (expected : Bytes) :
    (∀ calls, (∀ before r, before <+: calls →
        exec (step unicode) (start unicode expected) before = some r →
        ∀ fingerprint ∈ r.accepted, Trusted unicode expected r fingerprint) ↔
      normalizeBytes unicode.toUnicode expected ≠ [] ∨ Steady unicode calls) ∧
    ∀ transport quic control tcp r raw,
      connect unicode sum256 transport (start unicode expected) quic control tcp = (r, .ok raw) →
      (Trusted unicode expected r (printed sum256 raw) ↔
        normalizeBytes unicode.toUnicode expected ≠ [] ∨
          switches unicode sum256 transport quic tcp = false) :=
  ⟨accepted_trusted_iff expected, fun _ _ _ _ _ _ h => connect_trusted_iff h⟩

/-! ## A fallback -/

/-- What is changed by `Char.toUpper` is a small letter. -/
theorem exists_of_toUpper_ne {c : Char} (h : c.toUpper ≠ c) : ∃ n : Fin 26, c = Char.ofNat (97 + n) := by
  unfold Char.toUpper at h
  split at h
  · next hc =>
    have hval : c.toNat = c.val.toNat := rfl
    have hlow : 97 ≤ c.val.toNat := UInt32.le_iff_toNat_le.1 hc.1
    have hhigh : c.val.toNat ≤ 122 := UInt32.le_iff_toNat_le.1 hc.2
    refine ⟨⟨c.toNat - 97, by omega⟩, ?_⟩
    have hsum : 97 + (c.toNat - 97) = c.toNat := by omega
    simp only [hsum, Char.ofNat_toNat]
  · exact absurd rfl h

theorem toUpper_small : ∀ n : Fin 26, (Char.ofNat (97 + n)).toUpper.toUpper =
    (Char.ofNat (97 + n)).toUpper ∧ isSpace (Char.ofNat (97 + n)).toUpper = false := by decide

def sampleCase : CaseMapping where
  toUnicode := Clients.sampleUnicode
  toUpper_toUpper := by
    intro c
    show c.toUpper.toUpper = c.toUpper
    by_cases h : c.toUpper = c
    · rw [h, h]
    · obtain ⟨n, rfl⟩ := exists_of_toUpper_ne h
      exact (toUpper_small n).1
  toUpper_letter := by
    intro c h
    obtain ⟨n, rfl⟩ := exists_of_toUpper_ne h
    exact (toUpper_small n).2
  toLower := Char.toLower
  toLower_ascii := fun _ _ => rfl

/-- The server presents a certificate, the user says `yes` if asked, and the dial fails after that or
    not. -/
def sampleDial (raw : Bytes) (failure : Option Err) : Dial := ⟨.ok [raw], .ok [121, 101, 115], failure⟩

/-- The QUIC dial times out after its certificate was accepted, and the TCP dial meets `raw`. -/
def fallback (raw : Bytes) : Run × Except (Stage × Err) Bytes :=
  connect sampleCase Clients.sampleSum .auto (start sampleCase []) (sampleDial [1] (some .context)) none
    (sampleDial raw none)

/-- The same certificate over both transports is trusted. -/
theorem fallback_same : (fallback [1]).2 = .ok [1] ∧
    Trusted sampleCase [] (fallback [1]).1 (printed Clients.sampleSum [1]) := by
  have hok : (fallback [1]).2 = .ok [1] := by decide +kernel
  have hsteady : switches sampleCase Clients.sampleSum .auto (sampleDial [1] (some .context))
      (sampleDial [1] none) = false := by decide +kernel
  have hconnect : fallback [1] = ((fallback [1]).1, .ok [1]) := Prod.ext rfl hok
  exact ⟨hok, ((probe_trusted_iff sampleCase Clients.sampleSum []).2 _ _ _ _ _ _ hconnect).2
    (Or.inr hsteady)⟩

/-- Another certificate is accepted all the same, though the user was asked about the first one
    only. -/
theorem fallback_other : (fallback [2]).2 = .ok [2] ∧
    (fallback [2]).1.agreed = [printed Clients.sampleSum [1]] ∧
    ¬ Trusted sampleCase [] (fallback [2]).1 (printed Clients.sampleSum [2]) := by
  have hok : (fallback [2]).2 = .ok [2] := by decide +kernel
  have hagreed : (fallback [2]).1.agreed = [printed Clients.sampleSum [1]] := by decide +kernel
  refine ⟨hok, hagreed, ?_⟩
  intro htrusted
  rcases htrusted with ⟨hsome, _⟩ | ⟨_, shown, hmem, hequal⟩
  · exact hsome (by decide +kernel)
  · rw [hagreed, List.mem_singleton] at hmem
    subst hmem
    revert hequal
    decide +kernel

end LnProxy.Trust.Probe
