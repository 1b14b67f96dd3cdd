import LnProxy.Lib.Transition
import LnProxy.Protocol.Frame
import LnProxy.Text
import Mathlib.Logic.Function.Basic

set_option autoImplicit false

/-! # Trust on first use (`KnownHosts`, `ClientTLSConfig`)

A client pins the fingerprint of a server's certificate when it meets the server for the first time and
a confirmer accepts it. Connection attempts read the pinned fingerprint with `Get` when they begin and
check the certificate much later, in the handshake; another attempt may have pinned the host in
between. `KnownHosts.save` is one section under the store's lock, with the call of the confirmer and
the writing of the file inside it.

SHA-256 is a parameter, and so is `unicode.ToUpper` beyond ASCII. -/

namespace LnProxy.Trust

open Transition

abbrev Text := List Char

/-! ## Fingerprints -/

/-- `unicode.ToUpper`, of which only the values on ASCII are known here. -/
structure Unicode where
  toUpper : Char → Char
  toUpper_ascii : ∀ c, c.toNat < 128 → toUpper c = c.toUpper

/-- One digit of the verb `%X`. -/
def hexDigit (n : Nat) : Char := Char.ofNat (if n < 10 then '0'.toNat + n else 'A'.toNat + n - 10)

/-- The verb `%02X`. -/
def hexByte (b : UInt8) : Text := [hexDigit (b.toNat / 16), hexDigit (b.toNat % 16)]

/-- `Fingerprint`, from the digest on. -/
def fingerprint (sum : List UInt8) : Text := [':'].intercalate (sum.map hexByte)

def normalizeFingerprint (unicode : Unicode) (value : Text) : Text :=
  let value := (trim isSpace value).map unicode.toUpper
  let value := value.filter (· ≠ ' ')
  value.map fun c => if c = '-' then ':' else c

def equalFingerprint (unicode : Unicode) (a b : Text) : Bool :=
  decide (normalizeFingerprint unicode a = normalizeFingerprint unicode b)

theorem equalFingerprint_iff {unicode : Unicode} {a b : Text} : equalFingerprint unicode a b = true ↔
    normalizeFingerprint unicode a = normalizeFingerprint unicode b := decide_eq_true_iff

/-- A character that normalising leaves alone. -/
def plain (c : Char) : Bool :=
  !isSpace c && decide (c.toNat < 128) && decide (c.toUpper = c) && decide (c ≠ ' ') &&
    decide (c ≠ '-')

theorem plain_hexDigit {n : Nat} (h : n < 16) : plain (hexDigit n) = true := by
  have hall : ∀ i : Fin 16, plain (hexDigit i) = true := by decide
  exact hall ⟨n, h⟩

theorem hexDigit_inj {m n : Nat} (hm : m < 16) (hn : n < 16) (h : hexDigit m = hexDigit n) :
    m = n := by
  have hall : ∀ i j : Fin 16, hexDigit i = hexDigit j → i = j := by decide
  exact congrArg Fin.val (hall ⟨m, hm⟩ ⟨n, hn⟩ h)

theorem hexByte_inj {a b : UInt8} (h : hexByte a = hexByte b) : a = b := by
  have ha := a.toNat_lt
  have hb := b.toNat_lt
  simp only [hexByte, List.cons.injEq, and_true] at h
  have hhigh := hexDigit_inj (by omega) (by omega) h.1
  have hlow := hexDigit_inj (by omega) (by omega) h.2
  exact UInt8.toNat_inj.1 (by omega)

@[simp] theorem fingerprint_singleton (b : UInt8) : fingerprint [b] = hexByte b := by
  simp [fingerprint, List.intercalate]

@[simp] theorem fingerprint_cons_cons (a b : UInt8) (sum : List UInt8) :
    fingerprint (a :: b :: sum) = hexByte a ++ ':' :: fingerprint (b :: sum) := by
  simp [fingerprint, List.intercalate]

theorem plain_of_mem_fingerprint {sum : List UInt8} {c : Char} (h : c ∈ fingerprint sum) :
    plain c = true := by
  have hbyte : ∀ b : UInt8, ∀ c ∈ hexByte b, plain c = true := by
    intro b c hc
    have hb := b.toNat_lt
    simp only [hexByte, List.mem_cons, List.not_mem_nil, or_false] at hc
    rcases hc with rfl | rfl
    · exact plain_hexDigit (by omega)
    · exact plain_hexDigit (by omega)
  induction sum with
  | nil => cases h
  | cons a sum ih =>
    cases sum with
    | nil => exact hbyte a c (by simpa using h)
    | cons b sum =>
      rw [fingerprint_cons_cons, List.mem_append, List.mem_cons] at h
      rcases h with h | rfl | h
      · exact hbyte a c h
      · decide
      · exact ih h

/-- **A fingerprint is its own normal form.** -/
theorem normalize_fingerprint (unicode : Unicode) (sum : List UInt8) :
    normalizeFingerprint unicode (fingerprint sum) = fingerprint sum := by
  have hplain : ∀ c ∈ fingerprint sum, isSpace c = false ∧ unicode.toUpper c = c ∧ c ≠ ' ' ∧
      c ≠ '-' := by
    intro c hc
    have h := plain_of_mem_fingerprint hc
    simp only [plain, Bool.and_eq_true, Bool.not_eq_true', decide_eq_true_eq] at h
    obtain ⟨⟨⟨⟨hspace, hascii⟩, hupper⟩, hblank⟩, hdash⟩ := h
    exact ⟨hspace, (unicode.toUpper_ascii c hascii).trans hupper, hblank, hdash⟩
  have hupper : (fingerprint sum).map unicode.toUpper = fingerprint sum :=
    (List.map_congr_left fun c hc => (hplain c hc).2.1).trans (List.map_id _)
  have hblank : (fingerprint sum).filter (· ≠ ' ') = fingerprint sum :=
    List.filter_eq_self.2 fun c hc => decide_eq_true (hplain c hc).2.2.1
  have hdash : (fingerprint sum).map (fun c => if c = '-' then ':' else c) = fingerprint sum :=
    (List.map_congr_left fun c hc => if_neg (hplain c hc).2.2.2).trans (List.map_id _)
  rw [normalizeFingerprint, trim_eq_self fun c hc => (hplain c hc).1, hupper, hblank,
    hdash]

/-- **Different digests have different fingerprints.** -/
theorem fingerprint_inj {xs ys : List UInt8} (hlength : xs.length = ys.length)
    (h : fingerprint xs = fingerprint ys) : xs = ys := by
  induction xs generalizing ys with
  | nil => exact (List.length_eq_zero_iff.1 hlength.symm).symm
  | cons a xs ih =>
    cases ys with
    | nil => cases hlength
    | cons b ys =>
      have hlength' : xs.length = ys.length := Nat.succ.inj hlength
      cases xs with
      | nil =>
        obtain rfl := List.length_eq_zero_iff.1 hlength'.symm
        rw [fingerprint_singleton, fingerprint_singleton] at h
        rw [hexByte_inj h]
      | cons a' xs =>
        cases ys with
        | nil => cases hlength'
        | cons b' ys =>
          rw [fingerprint_cons_cons, fingerprint_cons_cons] at h
          obtain ⟨hbyte, hrest⟩ := List.append_inj h rfl
          rw [hexByte_inj hbyte, ih hlength' (List.cons.inj hrest).2]

theorem fingerprint_ne_nil {b : UInt8} {sum : List UInt8} : fingerprint (b :: sum) ≠ [] := by
  cases sum <;> simp [hexByte]

/-! ## The store -/

/-- The store in memory; a host that it does not hold reads as the empty string. Unmarshalling `null`
    leaves a nil map, which reads as empty and cannot be written. -/
structure KnownHosts where
  entries : String → Text
  isNil : Bool

/-- The confirmer: the host and the fingerprint it is shown. -/
abbrev Confirmer := String → Text → Except Err Bool

namespace KnownHosts

def get (k : KnownHosts) (host : String) : Text := k.entries host

/-- What `Save` makes of the answer of the confirmer, if there is one. -/
def confirmation (answer : Option (Except Err Bool)) (host : String) : Option Err :=
  match answer with
  | none => some (.message
      ("server " ++ host ++ " is not trusted and no fingerprint confirmation is available"))
  | some (.error err) => some err
  | some (.ok false) => some (.message
      ("server certificate fingerprint for " ++ host ++ " was not accepted"))
  | some (.ok true) => none

/-- What `Save` refuses before it changes anything. -/
def refusal (unicode : Unicode) (k : KnownHosts) (host : String) (fingerprint : Text)
    (confirm : Option Confirmer) : Option Err :=
  let existing := k.entries host
  if existing ≠ [] ∧ equalFingerprint unicode existing fingerprint = false then
    some (.message ("refusing to replace fingerprint for " ++ host))
  else if existing = [] then
    confirmation (confirm.map fun f => f host (normalizeFingerprint unicode fingerprint)) host
  else none

/-- `Save`. The error of the first file operation that fails is `disk`; `none` is the panic of writing
    to a nil map. -/
def save (unicode : Unicode) (k : KnownHosts) (host : String) (fingerprint : Text)
    (confirm : Option Confirmer) (disk : Option Err) : Option (KnownHosts × Option Err) :=
  match k.refusal unicode host fingerprint confirm with
  | some err => some (k, some err)
  | none =>
    if k.isNil then none
    else
      let entries := Function.update k.entries host (normalizeFingerprint unicode fingerprint)
      some ({ k with entries := entries }, disk)

end KnownHosts

/-- `VerifyConnection` of a `ClientTLSConfig`, with a trust store or without. -/
def verifyConnection (unicode : Unicode) (sum256 : Bytes → Vector UInt8 32) (k : KnownHosts)
    (trust : Bool) (expected : Text) (host : String) (certificates : List Bytes)
    (confirm : Option Confirmer) (disk : Option Err) : Option (KnownHosts × Option Err) :=
  match certificates with
  | [] => some (k, some (.message "server did not present a certificate"))
  | raw :: _ =>
    let actual := fingerprint (sum256 raw).toList
    if expected ≠ [] then
      if equalFingerprint unicode expected actual then some (k, none)
      else some (k, some (.message ("server certificate fingerprint changed: expected " ++
        String.ofList expected ++ ", got " ++ String.ofList actual)))
    else if trust = false then
      some (k, some (.message "server is not trusted and no trust store is available"))
    else k.save unicode host actual confirm disk

/-! ## Connection attempts -/

/-- A connection attempt: its host, and what `Get` returned to it. -/
structure Attempt where
  host : String
  expected : Option Text

structure Clients where
  store : KnownHosts
  attempts : List Attempt
  /-- The hosts and certificates for which `VerifyConnection` has returned nil. -/
  accepted : List (String × Bytes)

namespace Clients

def new (store : KnownHosts) : Clients := ⟨store, [], []⟩

inductive Label where
  | dial (host : String)
  | get (a : Nat)
  /-- A handshake of the attempt, over QUIC or TCP, comes to `VerifyConnection`. -/
  | verify (a : Nat) (certificates : List Bytes) (confirm : Option Confirmer) (disk : Option Err)

def step (unicode : Unicode) (sum256 : Bytes → Vector UInt8 32) (s : Clients) :
    Label → Option Clients
  | .dial host => some { s with attempts := s.attempts ++ [⟨host, none⟩] }
  | .get a => (s.attempts[a]?).bind fun attempt =>
    match attempt.expected with
    | none =>
      let expected := s.store.get attempt.host
      some { s with attempts := s.attempts.set a { attempt with expected := some expected } }
    | some _ => none
  | .verify a certificates confirm disk => (s.attempts[a]?).bind fun attempt =>
    match attempt.expected with
    | none => none
    | some expected =>
      (verifyConnection unicode sum256 s.store true expected attempt.host certificates confirm
        disk).map fun result =>
        { s with
          store := result.1,
          accepted := match result.2, certificates with
            | none, raw :: _ => (attempt.host, raw) :: s.accepted
            | _, _ => s.accepted }

/-! ## What a step does -/

variable {unicode : Unicode} {sum256 : Bytes → Vector UInt8 32} {s s' : Clients} {l : Label}
  {host : String} {k : KnownHosts}

/-- The fingerprint of a certificate. -/
abbrev printOf (sum256 : Bytes → Vector UInt8 32) (raw : Bytes) : Text :=
  fingerprint (sum256 raw).toList

theorem printOf_ne_nil (raw : Bytes) : printOf sum256 raw ≠ [] := by
  have hlength : (sum256 raw).toList.length = 32 := Vector.length_toList
  unfold printOf
  cases hsum : (sum256 raw).toList with
  | nil =>
    rw [hsum] at hlength
    cases hlength
  | cons b sum => exact fingerprint_ne_nil

theorem printOf_inj {raw raw' : Bytes} (h : printOf sum256 raw = printOf sum256 raw') :
    sum256 raw = sum256 raw' := by
  have hlength : (sum256 raw).toList.length = (sum256 raw').toList.length := by
    rw [Vector.length_toList, Vector.length_toList]
  exact Vector.toList_inj.1 (fingerprint_inj hlength h)

/-- The fingerprint of a certificate is written to the store: the host had none and the confirmer has
    accepted it, or the host had the same. -/
inductive Pins (unicode : Unicode) (k : KnownHosts) (host : String) (actual : Text)
    (confirm : Option Confirmer) : Prop where
  | first (f : Confirmer) (hnone : k.entries host = []) (hconfirm : confirm = some f)
      (haccepted : f host actual = .ok true)
  | again (hsome : k.entries host ≠ [])
      (hequal : normalizeFingerprint unicode (k.entries host) = actual)

theorem pins_of_refusal {actual : Text} {confirm : Option Confirmer}
    (hnormal : normalizeFingerprint unicode actual = actual)
    (h : k.refusal unicode host actual confirm = none) : Pins unicode k host actual confirm := by
  unfold KnownHosts.refusal at h
  simp only at h
  split at h
  · cases h
  · next hsame =>
    by_cases hnone : k.entries host = []
    · rw [if_pos hnone, hnormal] at h
      cases confirm with
      | none => cases h
      | some f =>
        rw [Option.map_some] at h
        refine .first f hnone rfl ?_
        unfold KnownHosts.confirmation at h
        split at h
        · cases h
        · cases h
        · cases h
        · next haccepted => exact Option.some.inj haccepted
    · refine .again hnone ?_
      by_contra hne
      refine hsame ⟨hnone, ?_⟩
      rw [Bool.eq_false_iff, Ne, equalFingerprint_iff, hnormal]
      exact hne

/-- The outcomes of `Save` for a fingerprint in normal form. -/
theorem save_cases {k k' : KnownHosts} {actual : Text} {confirm : Option Confirmer}
    {disk err : Option Err} (hnormal : normalizeFingerprint unicode actual = actual)
    (h : k.save unicode host actual confirm disk = some (k', err)) :
    k' = k ∧ err ≠ none ∨
      k'.entries = Function.update k.entries host actual ∧ Pins unicode k host actual confirm := by
  unfold KnownHosts.save at h
  cases hrefusal : k.refusal unicode host actual confirm with
  | some refused =>
    rw [hrefusal] at h
    cases h
    exact Or.inl ⟨rfl, nofun⟩
  | none =>
    simp only [hrefusal, hnormal] at h
    split at h
    · cases h
    · cases h
      exact Or.inr ⟨rfl, pins_of_refusal hnormal hrefusal⟩

/-- What a step does to the store. -/
inductive Steps (unicode : Unicode) (sum256 : Bytes → Vector UInt8 32) (s : Clients) :
    Label → Clients → Prop where
  | dial (host : String) :
      Steps unicode sum256 s (.dial host) { s with attempts := s.attempts ++ [⟨host, none⟩] }
  | get {a : Nat} {attempt : Attempt} (hattempt : s.attempts[a]? = some attempt) :
      Steps unicode sum256 s (.get a) { s with
        attempts := s.attempts.set a
          { attempt with expected := some (s.store.entries attempt.host) } }
  /-- The certificate is not accepted, and the store stays. -/
  | refused {a : Nat} {certificates : List Bytes} {confirm : Option Confirmer} {disk : Option Err} :
      Steps unicode sum256 s (.verify a certificates confirm disk) s
  /-- The certificate has the fingerprint the attempt has read before. -/
  | known {a : Nat} {raw : Bytes} {certificates : List Bytes} {confirm : Option Confirmer}
      {disk : Option Err} {attempt : Attempt} {expected : Text}
      (hattempt : s.attempts[a]? = some attempt) (hexpected : attempt.expected = some expected)
      (hsome : expected ≠ [])
      (hequal : normalizeFingerprint unicode expected = printOf sum256 raw) :
      Steps unicode sum256 s (.verify a (raw :: certificates) confirm disk)
        { s with accepted := (attempt.host, raw) :: s.accepted }
  /-- The fingerprint is saved, and the certificate accepted unless the disk fails. -/
  | saved {a : Nat} {raw : Bytes} {certificates : List Bytes} {confirm : Option Confirmer}
      {disk : Option Err} {attempt : Attempt} {k : KnownHosts} {accepted : List (String × Bytes)}
      (hpins : Pins unicode s.store attempt.host (printOf sum256 raw) confirm)
      (hk : k.entries = Function.update s.store.entries attempt.host (printOf sum256 raw))
      (haccepted : accepted = s.accepted ∨ accepted = (attempt.host, raw) :: s.accepted) :
      Steps unicode sum256 s (.verify a (raw :: certificates) confirm disk)
        { s with store := k, accepted := accepted }

/-- **Inversion of a step.** -/
theorem step_steps (h : step unicode sum256 s l = some s') : Steps unicode sum256 s l s' := by
  cases l with
  | dial host =>
    cases h
    exact .dial host
  | get a =>
    obtain ⟨attempt, hattempt, h⟩ := Option.bind_eq_some_iff.1 h
    split at h
    · cases h
      exact .get hattempt
    · cases h
  | verify a certificates confirm disk =>
    obtain ⟨attempt, hattempt, h⟩ := Option.bind_eq_some_iff.1 h
    split at h
    · cases h
    · next expected hexpected =>
      obtain ⟨⟨k, err⟩, hverify, rfl⟩ := Option.map_eq_some_iff.1 h
      cases certificates with
      | nil =>
        cases hverify
        exact .refused
      | cons raw certificates =>
        simp only [verifyConnection, Bool.true_eq_false, if_false] at hverify
        split at hverify
        · next hsome =>
          split at hverify
          · next hequal =>
            cases hverify
            rw [equalFingerprint_iff, normalize_fingerprint] at hequal
            exact .known hattempt hexpected hsome hequal
          · cases hverify
            exact .refused
        · have hnormal := normalize_fingerprint unicode (sum256 raw).toList
          rcases save_cases hnormal hverify with ⟨rfl, herr⟩ | ⟨hk, hpins⟩
          · cases err with
            | none => exact absurd rfl herr
            | some err => exact .refused
          · refine .saved hpins hk ?_
            cases err with
            | none => exact Or.inr rfl
            | some err => exact Or.inl rfl

/-! ## The invariant -/

/-- The store holds a fingerprint for the host that is equal to `f`. -/
def Pinned (unicode : Unicode) (k : KnownHosts) (host : String) (f : Text) : Prop :=
  k.entries host ≠ [] ∧ equalFingerprint unicode f (k.entries host) = true

structure Inv (unicode : Unicode) (sum256 : Bytes → Vector UInt8 32) (s : Clients) : Prop where
  /-- What an attempt has read from the store is still pinned. -/
  expected : ∀ attempt ∈ s.attempts, ∀ f, attempt.expected = some f → f ≠ [] →
    Pinned unicode s.store attempt.host f
  /-- What was accepted is pinned. -/
  accepted : ∀ host raw, (host, raw) ∈ s.accepted → Pinned unicode s.store host (printOf sum256 raw)

theorem new_inv (store : KnownHosts) : Inv unicode sum256 (new store) where
  expected := by simp [new]
  accepted := by simp [new]

theorem pinned_printOf {raw : Bytes} {entries : String → Text}
    (hk : k.entries = Function.update entries host (printOf sum256 raw)) :
    Pinned unicode k host (printOf sum256 raw) := by
  rw [Pinned, hk, Function.update_self]
  exact ⟨printOf_ne_nil raw, equalFingerprint_iff.2 rfl⟩

/-- **A pin is not replaced**: whatever the step, a host keeps a fingerprint equal to its own. -/
theorem Steps.pinned (h : Steps unicode sum256 s l s') {f : Text}
    (hpinned : Pinned unicode s.store host f) : Pinned unicode s'.store host f := by
  cases h with
  | dial _ => exact hpinned
  | get _ => exact hpinned
  | refused => exact hpinned
  | known _ _ _ _ => exact hpinned
  | @saved a raw certificates confirm disk attempt k accepted hpins hk haccepted =>
    obtain ⟨hsome, hequal⟩ := hpinned
    rw [equalFingerprint_iff] at hequal
    by_cases hhost : host = attempt.host
    · subst hhost
      cases hpins with
      | first f hnone _ _ => exact absurd hnone hsome
      | again _ hagain =>
        have hsaved : Pinned unicode k attempt.host (printOf sum256 raw) := pinned_printOf hk
        refine ⟨hsaved.1, ?_⟩
        rw [equalFingerprint_iff, hk, Function.update_self, normalize_fingerprint, hequal, hagain]
    · rw [Pinned, hk, Function.update_of_ne hhost]
      exact ⟨hsome, equalFingerprint_iff.2 hequal⟩

theorem Inv.steps (hinv : Inv unicode sum256 s) (h : Steps unicode sum256 s l s') :
    Inv unicode sum256 s' := by
  have hkeep : ∀ host f, Pinned unicode s.store host f → Pinned unicode s'.store host f :=
    fun _ _ => h.pinned
  cases h with
  | dial host =>
    refine ⟨fun attempt hmem f hf hne => ?_, hinv.accepted⟩
    rcases List.mem_append.1 hmem with hmem | hmem
    · exact hinv.expected attempt hmem f hf hne
    · rw [List.mem_singleton.1 hmem] at hf
      cases hf
  | @get a attempt hattempt =>
    refine ⟨fun other hmem f hf hne => ?_, hinv.accepted⟩
    rcases List.mem_or_eq_of_mem_set hmem with hmem | rfl
    · exact hinv.expected other hmem f hf hne
    · obtain rfl := Option.some.inj hf
      exact ⟨hne, equalFingerprint_iff.2 rfl⟩
  | refused => exact hinv
  | @known a raw certificates confirm disk attempt expected hattempt hexpected hsome hequal =>
    refine ⟨hinv.expected, fun host raw' hmem => ?_⟩
    rcases List.mem_cons.1 hmem with heq | hmem
    · cases heq
      -- the attempt has read a fingerprint that is still pinned
      obtain ⟨hpinned, hsame⟩ :=
        hinv.expected attempt (List.mem_of_getElem? hattempt) expected hexpected hsome
      rw [equalFingerprint_iff, hequal] at hsame
      refine ⟨hpinned, ?_⟩
      rw [equalFingerprint_iff, normalize_fingerprint]
      exact hsame
    · exact hinv.accepted host raw' hmem
  | @saved a raw certificates confirm disk attempt k accepted hpins hk haccepted =>
    refine ⟨fun other hmem f hf hne => ?_, fun host raw' hmem => ?_⟩
    · exact hkeep _ _ (hinv.expected other hmem f hf hne)
    · rcases haccepted with rfl | rfl
      · exact hkeep _ _ (hinv.accepted host raw' hmem)
      · rcases List.mem_cons.1 hmem with heq | hmem
        · cases heq
          exact pinned_printOf hk
        · exact hkeep _ _ (hinv.accepted host raw' hmem)

/-! ## The result -/

/-- What is pinned anew, the confirmer was shown and has accepted. -/
theorem Steps.confirmed (h : Steps unicode sum256 s l s')
    (hnone : s.store.entries host = []) (hsome : s'.store.entries host ≠ []) :
    ∃ a certificates f disk, l = .verify a certificates (some f) disk ∧
      f host (s'.store.entries host) = .ok true := by
  cases h with
  | dial _ => exact absurd hnone hsome
  | get _ => exact absurd hnone hsome
  | refused => exact absurd hnone hsome
  | known _ _ _ _ => exact absurd hnone hsome
  | @saved a raw certificates confirm disk attempt k accepted hpins hk haccepted =>
    have hhost : host = attempt.host := by
      by_contra hne
      rw [hk, Function.update_of_ne hne] at hsome
      exact hsome hnone
    subst hhost
    cases hpins with
    | first f _ hconfirm hyes =>
      subst hconfirm
      refine ⟨a, raw :: certificates, f, disk, rfl, ?_⟩
      rw [hk, Function.update_self]
      exact hyes
    | again hpinned _ => exact absurd hnone hpinned

/-- **A pin is immutable.** Take any run of connection attempts on one store. From any state of it on,
    a host that has a fingerprint keeps one that is equal; every certificate accepted so far has the
    fingerprint that is pinned for its host, so that two certificates accepted for one host have the
    same digest; and what the next step pins for a new host, the confirmer has accepted. -/
theorem pin_immutable {store : KnownHosts} {as as' : List Label}
    (hrun : exec (step unicode sum256) (new store) as = some s)
    (hrun' : exec (step unicode sum256) s as' = some s') :
    (∀ host, s.store.entries host ≠ [] → s'.store.entries host ≠ [] ∧
      equalFingerprint unicode (s.store.entries host) (s'.store.entries host) = true) ∧
    (∀ host raw, (host, raw) ∈ s'.accepted → s'.store.entries host ≠ [] ∧
      equalFingerprint unicode (fingerprint (sum256 raw).toList) (s'.store.entries host) = true) ∧
    (∀ host raw raw', (host, raw) ∈ s'.accepted → (host, raw') ∈ s'.accepted →
      sum256 raw = sum256 raw') ∧
    (∀ l s'' host, step unicode sum256 s' l = some s'' → s'.store.entries host = [] →
      s''.store.entries host ≠ [] → ∃ a certificates f disk,
        l = .verify a certificates (some f) disk ∧ f host (s''.store.entries host) = .ok true) := by
  have hreachable : Reachable (step unicode sum256) (new store) s' :=
    ⟨as ++ as', by rw [exec_append, hrun]; exact hrun'⟩
  have hfrom : Reachable (step unicode sum256) s s' := ⟨as', hrun'⟩
  have hinv : Inv unicode sum256 s' :=
    hreachable.invariant (Inv unicode sum256) (fun _ _ _ hm hstep => hm.steps (step_steps hstep))
      (new_inv store)
  refine ⟨fun host hsome => ?_, hinv.accepted, fun host raw raw' h h' => ?_,
    fun l s'' host hstep hnone hsome => (step_steps hstep).confirmed hnone hsome⟩
  · exact hfrom.invariant (fun m => Pinned unicode m.store host (s.store.entries host))
      (fun _ _ _ hm hstep => (step_steps hstep).pinned hm) ⟨hsome, equalFingerprint_iff.2 rfl⟩
  · -- both fingerprints are in normal form, and equal to the pinned one
    have hequal := equalFingerprint_iff.1 (hinv.accepted host raw h).2
    have hequal' := equalFingerprint_iff.1 (hinv.accepted host raw' h').2
    rw [normalize_fingerprint] at hequal hequal'
    exact printOf_inj (hequal.trans hequal'.symm)

/-- A toy digest. -/
def sampleSum (raw : Bytes) : Vector UInt8 32 := Vector.replicate 32 (raw.headD 0)

def sampleUnicode : Unicode := ⟨Char.toUpper, fun _ _ => rfl⟩

/-- Two attempts begin before the host is known. The first one pins its certificate, though the file
    cannot be written; -/
def firstUse : List Label :=
  [.dial "s", .dial "s", .get 0, .get 1,
    .verify 0 [[171]] (some fun _ _ => .ok true) (some (.message "disk full"))]

/-- then the second one is shown another certificate, and the same. -/
def secondUse : List Label := [.verify 1 [[172]] none none, .verify 1 [[171]] none none]

theorem secondUse_pinned :
    ∃ s s', exec (step sampleUnicode sampleSum) (new ⟨fun _ => [], false⟩) firstUse = some s ∧
      exec (step sampleUnicode sampleSum) s secondUse = some s' ∧
      s.store.entries "s" ≠ [] ∧ s'.accepted = [("s", [171])] ∧
      equalFingerprint sampleUnicode (s.store.entries "s") (s'.store.entries "s") = true := by
  have hrun : exec (step sampleUnicode sampleSum) (new ⟨fun _ => [], false⟩) firstUse =
      some (after (step sampleUnicode sampleSum) (new ⟨fun _ => [], false⟩) firstUse) :=
    exec_after (by decide +kernel)
  have hrun' : exec (step sampleUnicode sampleSum)
      (after (step sampleUnicode sampleSum) (new ⟨fun _ => [], false⟩) firstUse) secondUse =
      some (after (step sampleUnicode sampleSum)
        (after (step sampleUnicode sampleSum) (new ⟨fun _ => [], false⟩) firstUse) secondUse) :=
    exec_after (by decide +kernel)
  have hsome : (after (step sampleUnicode sampleSum) (new ⟨fun _ => [], false⟩)
      firstUse).store.entries "s" ≠ [] := by decide +kernel
  exact ⟨_, _, hrun, hrun', hsome, by decide +kernel, ((pin_immutable hrun hrun').1 "s" hsome).2⟩

end Clients

end LnProxy.Trust
