import LnProxy.Lib.Fields
import LnProxy.Lib.Files
import LnProxy.Lib.UTF8
import LnProxy.Trust.KnownHosts

set_option autoImplicit false

/-! # The file of a trust store (`LoadKnownHosts`, `KnownHosts.Save`)

`Save` changes the store in memory first and writes the file then: it makes the directory, writes a
temporary file and renames it. When one of these fails the caller is told so, but the store trusts the
fingerprint from then on without asking again. Two more things come between memory and file. A file
that holds `null` is accepted and leaves a nil map, which panics when it is written to; and JSON knows
only text, so that a host that is not valid UTF-8 is read back under another name.

Go strings are byte strings here, and `encoding/json` is a parameter. -/

namespace LnProxy.Trust.StoreFile

open Files UTF8

/-! ## The map and its encoding -/

/-- A `map[string]string`, by its entries. -/
abbrev Entries := List (Bytes × Bytes)

namespace Entries

/-- The entry under a key. -/
def find (entries : Entries) (host : Bytes) : Option Bytes := entries.lookup host

def insert (entries : Entries) (host value : Bytes) : Entries :=
  (host, value) :: entries.filter fun entry => entry.1 ≠ host

/-- All keys and values are text. -/
def Valid (entries : Entries) : Prop := ∀ entry ∈ entries, UTF8.Valid entry.1 ∧ UTF8.Valid entry.2

/-- The same map. -/
def Same (entries entries' : Entries) : Prop := ∀ host, entries.find host = entries'.find host

theorem find_cons (host value : Bytes) (entries : Entries) (host' : Bytes) :
    find ((host, value) :: entries) host' = if host' = host then some value else find entries host' := by
  unfold find
  rw [List.lookup_cons]
  by_cases h : host' = host
  · rw [if_pos h, beq_iff_eq.2 h]
  · rw [if_neg h, beq_eq_false_iff_ne.2 h]

theorem find_filter {host host' : Bytes} (h : host' ≠ host) (entries : Entries) :
    find (entries.filter fun entry => entry.1 ≠ host) host' = find entries host' := by
  induction entries with
  | nil => rfl
  | cons entry entries ih =>
    obtain ⟨key, value⟩ := entry
    rw [find_cons]
    by_cases hkey : key = host
    · rw [List.filter_cons_of_neg (by simpa using hkey), ih, if_neg (by rw [hkey]; exact h)]
    · rw [List.filter_cons_of_pos (by simpa using hkey), find_cons, ih]

theorem find_insert (entries : Entries) (host value host' : Bytes) :
    (entries.insert host value).find host' =
      if host' = host then some value else entries.find host' := by
  unfold insert
  rw [find_cons]
  by_cases h : host' = host
  · rw [if_pos h, if_pos h]
  · rw [if_neg h, if_neg h, find_filter h]

theorem mem_of_find {entries : Entries} {host value : Bytes} (h : entries.find host = some value) :
    (host, value) ∈ entries := by
  obtain ⟨_, _, hsplit, _⟩ := List.lookup_eq_some_iff.1 h
  rw [hsplit]
  exact List.mem_append_right _ (List.mem_cons_self ..)

theorem Valid.insert {entries : Entries} (h : entries.Valid) {host value : Bytes}
    (hhost : UTF8.Valid host) (hvalue : UTF8.Valid value) : (entries.insert host value).Valid := by
  intro entry hentry
  rcases List.mem_cons.1 hentry with rfl | hentry
  · exact ⟨hhost, hvalue⟩
  · exact h entry (List.mem_of_mem_filter hentry)

/-- Writing what is there already changes nothing. -/
theorem insert_same_iff {entries : Entries} {host value : Bytes} :
    (entries.insert host value).Same entries ↔ entries.find host = some value := by
  constructor
  · intro h
    have hhost := h host
    rw [find_insert, if_pos rfl] at hhost
    exact hhost.symm
  · intro h host'
    rw [find_insert]
    by_cases heq : host' = host
    · rw [if_pos heq, heq, h]
    · rw [if_neg heq]

end Entries

/-- `encoding/json` on a `map[string]string`. Strings that are text are read back as they were, and
    nothing but text is read. `null` sets the map to nil. -/
structure MapJSON where
  marshalIndent : Entries → Bytes
  unmarshal : Bytes → Except Err (Option Entries)
  unmarshal_marshalIndent : ∀ entries : Entries, entries.Valid →
    ∃ read, unmarshal (marshalIndent entries ++ [10]) = .ok (some read) ∧ read.Same entries
  valid_of_unmarshal : ∀ data read, unmarshal data = .ok (some read) → read.Valid
  unmarshal_null : unmarshal [110, 117, 108, 108] = .ok none

/-! ## The store -/

/-- `KnownHosts`; a nil map has no entries. -/
structure Store where
  path : Bytes
  entries : Option Entries
  confirm : Option (Bytes → Bytes → Except Err Bool)

variable (json : MapJSON) (unicode : Unicode)

/-- `NormalizeFingerprint`, for any Go string: a byte that belongs to no character becomes the
    replacement character on the way. -/
def normalizeBytes (fingerprint : Bytes) : Bytes :=
  UTF8.encode (normalizeFingerprint unicode (UTF8.coerce fingerprint))

/-- `EqualFingerprint` -/
def equal (a b : Bytes) : Bool := decide (normalizeBytes unicode a = normalizeBytes unicode b)

def loadKnownHosts {μ : Type} (path : Bytes) : Program μ Bytes Bytes Err Store := do
  match ← attempt (readFile path) with
  | .error .notExist => pure ⟨path, some [], none⟩
  | .error (.error err) => fail (.error err)
  | .ok data =>
    match json.unmarshal data with
    | .error _ => fail (.error (.message "parse known hosts"))
    | .ok entries => pure ⟨path, entries, none⟩

namespace Store

/-- The entry under a host, as reading from the map gives it. -/
def find (k : Store) (host : Bytes) : Option Bytes := k.entries.bind fun entries => entries.find host

def get (k : Store) (host : Bytes) : Bytes := (k.find host).getD []

def check (k : Store) (host fingerprint : Bytes) : Option Err :=
  let expected := k.get host
  if expected = [] then none
  else if equal unicode expected fingerprint = false then
    some (.message ("server certificate fingerprint changed for " ++ shown host ++ ": expected " ++
      shown expected ++ ", got " ++ shown fingerprint))
  else none

/-- What `Save` refuses before it changes anything. -/
def refusal (k : Store) (host fingerprint : Bytes) : Option Err :=
  let existing := k.get host
  if existing ≠ [] ∧ equal unicode existing fingerprint = false then
    some (.message ("refusing to replace fingerprint for " ++ shown host))
  else if existing = [] then
    KnownHosts.confirmation (k.confirm.map fun f => f host (normalizeBytes unicode fingerprint))
      (shown host)
  else none

def put (k : Store) (entries : Entries) : Store := { k with entries := some entries }

end Store

/-- `path + ".tmp"` -/
def tempPath (path : Bytes) : Bytes := path ++ [46, 116, 109, 112]

/-- The end of `Save`, from `MarshalIndent` on. -/
def writeEntries (path : Bytes) (entries : Entries) : Program Store Bytes Bytes Err Unit := do
  let data := json.marshalIndent entries ++ [10]
  -- `MkdirAll` of the directory
  call
  replaceFile (pure ()) path (tempPath path) data

def save (host fingerprint : Bytes) : Program Store Bytes Bytes Err Unit := do
  let k ← getMemory
  match k.refusal unicode host fingerprint with
  | some err => fail (.error err)
  | none =>
    match k.entries with
    | none => throw .panicked
    | some entries =>
      let entries := entries.insert host (normalizeBytes unicode fingerprint)
      setMemory (k.put entries)
      writeEntries json k.path entries

variable {json unicode}

/-! ## What is written and what is read -/

theorem tempPath_ne (path : Bytes) : path ≠ tempPath path := by
  intro h
  have hlength := congrArg List.length h
  simp [tempPath] at hlength

theorem valid_normalize (fingerprint : Bytes) : UTF8.Valid (normalizeBytes unicode fingerprint) := ⟨_, rfl⟩

/-- The file is written, or it is as before. -/
theorem triple_writeEntries (path : Bytes) (entries : Entries) (s : State Store Bytes Bytes) :
    Triple (· = s) (writeEntries json path entries)
      (fun _ t => t.memory = s.memory ∧ t.disk path = some (json.marshalIndent entries ++ [10]))
      (Fails fun t => t.memory = s.memory ∧ t.disk path = s.disk path) := by
  have hsame : ∀ t, SameBut (tempPath path) s t → t.memory = s.memory ∧ t.disk path = s.disk path :=
    fun t ht => ⟨ht.1, ht.2 path (tempPath_ne path)⟩
  have hcall : Triple (· = s) (call : Program Store Bytes Bytes Err Unit) (fun _ => (· = s))
      (Fails fun t => t.memory = s.memory ∧ t.disk path = s.disk path) := by
    refine quiet_call.triple.consequence (fun _ h => h) (fun _ _ h => h) (Fails.mono ?_)
    intro t ht
    rw [ht]
    exact ⟨rfl, rfl⟩
  refine hcall.bind fun _ => ?_
  refine (triple_replaceFile (quiet_pure ()) path (tempPath path) _ s).consequence (fun _ h => h) ?_
    (Fails.mono hsame)
  intro _ t ht
  obtain ⟨t', ht', rfl⟩ := ht
  exact ⟨ht'.1, State.set_disk_self ..⟩

/-- Three operations must succeed for the file to be written. -/
theorem needs_writeEntries (path : Bytes) (entries : Entries) (s : State Store Bytes Bytes) :
    Needs 3 (writeEntries json path entries) s ()
      ((s.set (tempPath path) none).set path (some (json.marshalIndent entries ++ [10]))) := by
  have hreplace := @needs_replaceFile Store Bytes Bytes Err 0 _ (pure ()) (needs_pure ()) path
    (tempPath path) (json.marshalIndent entries ++ [10]) s
  show Needs (1 + (1 + (0 + 1))) (call >>= fun _ => replaceFile (pure ()) path (tempPath path) _) s ()
    _
  exact (needs_call s).bind hreplace

section Load

variable {μ : Type} {path data : Bytes} {s : State μ Bytes Bytes} {m m' : Machine μ Bytes Bytes Err}
  {k : Store}

/-- What `LoadKnownHosts` reads is text. -/
theorem valid_of_loadKnownHosts (h : loadKnownHosts json path m = .ok k m') {entries : Entries}
    (hentries : k.entries = some entries) : entries.Valid := by
  unfold loadKnownHosts at h
  cases hread : attempt (readFile path) m with
  | error stop m'' =>
    rw [bind_error hread] at h
    cases h
  | ok read m'' =>
    rw [bind_ok hread] at h
    cases read with
    | error failure =>
      cases failure with
      | notExist =>
        cases h
        cases hentries
        intro entry hentry
        cases hentry
      | error err => cases h
    | ok data =>
      simp only at h
      cases hjson : json.unmarshal data with
      | error err =>
        rw [hjson] at h
        cases h
      | ok read =>
        rw [hjson] at h
        cases h
        exact json.valid_of_unmarshal data entries (hjson.trans (congrArg Except.ok hentries))

/-- `LoadKnownHosts` reads what `json.Unmarshal` gives. -/
theorem loadKnownHosts_of_unmarshal (hdata : s.disk path = some data) {entries : Option Entries}
    (hjson : json.unmarshal data = .ok entries) :
    loadKnownHosts json path (⟨s, []⟩ : Machine μ Bytes Bytes Err) =
      .ok ⟨path, entries, none⟩ ⟨s, []⟩ := by
  have hread : readFile path (⟨s, []⟩ : Machine μ Bytes Bytes Err) = .ok data ⟨s, []⟩ :=
    (needs_readFile hdata).ok [] (by simp)
  unfold loadKnownHosts
  rw [bind_ok (attempt_ok hread)]
  simp only [hjson]
  rfl

end Load

/-- The file that is written for a new entry is read back as it was meant exactly if the host is
    text. -/
theorem load_written_iff {path host value : Bytes} {entries : Entries} (hentries : entries.Valid)
    (hvalue : UTF8.Valid value) {s : State Store Bytes Bytes}
    (hdisk : s.disk path = some (json.marshalIndent (entries.insert host value) ++ [10])) :
    (∃ k m', loadKnownHosts json path (⟨s, []⟩ : Machine Store Bytes Bytes Err) = .ok k m' ∧
      ∀ host', k.find host' = (entries.insert host value).find host') ↔ UTF8.Valid host := by
  constructor
  · intro h
    obtain ⟨k, m', hload, hsame⟩ := h
    have hhost := hsame host
    rw [Entries.find_insert, if_pos rfl] at hhost
    obtain ⟨read, hread, hfind⟩ := Option.bind_eq_some_iff.1 hhost
    exact (valid_of_loadKnownHosts hload hread (host, value) (Entries.mem_of_find hfind)).1
  · intro hhost
    obtain ⟨read, hjson, hsame⟩ :=
      json.unmarshal_marshalIndent _ (hentries.insert hhost hvalue)
    exact ⟨_, _, loadKnownHosts_of_unmarshal hdisk hjson, hsame⟩

/-! ## Saving -/

theorem save_eq (host fingerprint : Bytes) (m : Machine Store Bytes Bytes Err) :
    save json unicode host fingerprint m =
      match m.memory.refusal unicode host fingerprint, m.memory.entries with
      | some err, _ => .error (.failed (.error err)) m
      | none, none => .error .panicked m
      | none, some entries =>
        writeEntries json m.memory.path (entries.insert host (normalizeBytes unicode fingerprint))
          ⟨⟨m.memory.put (entries.insert host (normalizeBytes unicode fingerprint)), m.disk⟩, m.plan⟩ := by
  show (match m.memory.refusal unicode host fingerprint with
    | some err => fail (.error err)
    | none => _ : Program Store Bytes Bytes Err Unit) m = _
  cases m.memory.refusal unicode host fingerprint with
  | some err => rfl
  | none =>
    show (match m.memory.entries with
      | none => throw .panicked
      | some entries => _ : Program Store Bytes Bytes Err Unit) m = _
    cases m.memory.entries with
    | none => rfl
    | some entries => rfl

/-! ## The store of the connection attempts

`KnownHosts` has text for byte strings, and one error for what comes of the file. What `save` does for
text is one of the things it allows. -/

/-- The same hosts are known, with the same fingerprints, and the same confirmer is asked. -/
structure Shows (store : Store) (k : KnownHosts) (confirm : Option Confirmer) : Prop where
  get : ∀ host : String, store.get (encode host.toList) = encode (k.entries host)
  isNil : k.isNil = store.entries.isNone
  confirm : ∀ (host : String) (text : Text),
    (store.confirm.map fun f => f (encode host.toList) (encode text)) = confirm.map fun f => f host text

theorem encode_inj {text text' : Text} : encode text = encode text' ↔ text = text' :=
  (Function.LeftInverse.injective UTF8.coerce_encode).eq_iff

theorem normalizeBytes_encode (text : Text) :
    normalizeBytes unicode (encode text) = encode (normalizeFingerprint unicode text) := by
  rw [normalizeBytes, UTF8.coerce_encode]

section Shows

variable {store : Store} {k : KnownHosts} {confirm : Option Confirmer}

theorem Shows.refusal (h : Shows store k confirm) (host : String) (fingerprint : Text) :
    store.refusal unicode (encode host.toList) (encode fingerprint) =
      k.refusal unicode host fingerprint confirm := by
  have hequal : ∀ a b : Text, equal unicode (encode a) (encode b) = equalFingerprint unicode a b := by
    intro a b
    simp only [equal, equalFingerprint, normalizeBytes_encode, encode_inj]
  have hnil : ∀ text : Text, encode text = [] ↔ text = [] := fun text => @encode_inj text []
  unfold Store.refusal KnownHosts.refusal
  simp only [h.get, hequal, ne_eq, hnil, normalizeBytes_encode, h.confirm, UTF8.shown,
    UTF8.coerce_encode, String.ofList_toList]

theorem Shows.put (h : Shows store k confirm) {entries : Entries} (hentries : store.entries = some entries)
    (host : String) (text : Text) :
    Shows (store.put (entries.insert (encode host.toList) (encode text)))
      { k with entries := Function.update k.entries host text } confirm where
  get := by
    intro host'
    have hget := h.get host'
    simp only [Store.get, Store.find, Store.put, hentries, Option.bind_some, Entries.find_insert,
      encode_inj, String.toList_inj, Function.update_apply] at hget ⊢
    split
    · rfl
    · exact hget
  isNil := by
    rw [h.isNil, hentries]
    rfl
  confirm := h.confirm

/-- **The model of the connection attempts has what the file leads to**: `Save` panics in both, or
    leaves stores that show the same, with an error that is the same if it has a text. -/
theorem save_simulates {m : Machine Store Bytes Bytes Err} (h : Shows m.memory k confirm) (host : String)
    (fingerprint : Text) :
    ∃ disk, match save json unicode (encode host.toList) (encode fingerprint) m with
      | .error .panicked _ => k.save unicode host fingerprint confirm disk = none
      | .error (.failed failure) m' => ∃ k' err,
          k.save unicode host fingerprint confirm disk = some (k', some err) ∧
            (failure = .error err ∨ failure = .notExist) ∧ Shows m'.memory k' confirm
      | .ok _ m' => ∃ k', k.save unicode host fingerprint confirm disk = some (k', none) ∧
          Shows m'.memory k' confirm := by
  rw [save_eq, h.refusal, normalizeBytes_encode]
  unfold KnownHosts.save
  cases hrefusal : k.refusal unicode host fingerprint confirm with
  | some err => exact ⟨none, k, err, rfl, .inl rfl, h⟩
  | none =>
    cases hentries : m.memory.entries with
    | none =>
      refine ⟨none, if_pos ?_⟩
      rw [h.isNil, hentries]
      rfl
    | some entries =>
      have hnil : k.isNil ≠ true := by
        rw [h.isNil, hentries]
        nofun
      have hshows := h.put hentries host (normalizeFingerprint unicode fingerprint)
      simp only [if_neg hnil]
      generalize entries.insert _ _ = written at hshows ⊢
      have hwrite := @triple_writeEntries json m.memory.path written ⟨m.memory.put written, m.disk⟩
        ⟨⟨m.memory.put written, m.disk⟩, m.plan⟩ rfl
      generalize writeEntries json m.memory.path written _ = result at hwrite ⊢
      match result with
      | .ok _ m' => exact ⟨none, _, rfl, hwrite.1 ▸ hshows⟩
      | .error .panicked m' => exact absurd rfl hwrite.1
      | .error (.failed (.error err)) m' =>
        exact ⟨some err, _, _, rfl, .inl rfl, hwrite.2.1 ▸ hshows⟩
      | .error (.failed .notExist) m' =>
        exact ⟨some (.message ""), _, _, rfl, .inr rfl, hwrite.2.1 ▸ hshows⟩

end Shows

/-! ## When it is all or nothing -/

/-- A call of `Save` is all or nothing: it does not panic; if it fails, the entries in memory, what
    `Get` and `Check` make of them, and the file are as before; and otherwise the file is read back as
    the entries in memory. -/
def AllOrNothing (json : MapJSON) (unicode : Unicode) (host fingerprint : Bytes)
    (m : Machine Store Bytes Bytes Err) : Prop :=
  match save json unicode host fingerprint m with
  | .error .panicked _ => False
  | .error (.failed _) m' =>
    (∀ host', m'.memory.find host' = m.memory.find host') ∧
    (∀ host', m'.memory.get host' = m.memory.get host') ∧
    (∀ host' fingerprint', m'.memory.check unicode host' fingerprint' =
      m.memory.check unicode host' fingerprint') ∧
    m'.disk m.memory.path = m.disk m.memory.path
  | .ok () m' =>
    ∃ k m'', loadKnownHosts json m.memory.path (⟨m'.toState, []⟩ : Machine Store Bytes Bytes Err) =
      .ok k m'' ∧ ∀ host', k.find host' = m'.memory.find host'

/-- When `Save` comes to write, the map is not nil, and either the three file operations succeed and
    the host is text, or one of them fails and the entry was there before. -/
def Safe (unicode : Unicode) (host fingerprint : Bytes) (m : Machine Store Bytes Bytes Err) : Prop :=
  m.memory.refusal unicode host fingerprint = none →
    m.memory.entries ≠ none ∧
    ((∀ outcome ∈ m.plan.take 3, outcome = none) → UTF8.Valid host) ∧
    ((∃ outcome ∈ m.plan.take 3, outcome ≠ none) →
      m.memory.find host = some (normalizeBytes unicode fingerprint))

/-- `Get` and `Check` depend on the entries only. -/
theorem check_congr {k k' : Store} (h : ∀ host, k'.find host = k.find host) :
    (∀ host, k'.get host = k.get host) ∧
      ∀ host fingerprint, k'.check unicode host fingerprint = k.check unicode host fingerprint := by
  have hget : ∀ host, k'.get host = k.get host := by
    intro host
    unfold Store.get
    rw [h]
  refine ⟨hget, fun host fingerprint => ?_⟩
  unfold Store.check
  rw [hget]

section Writes

variable {host fingerprint : Bytes} {m : Machine Store Bytes Bytes Err} {entries : Entries}

/-- The run of a `Save` that comes to write. -/
theorem save_of_entries (hrefusal : m.memory.refusal unicode host fingerprint = none)
    (hentries : m.memory.entries = some entries) :
    save json unicode host fingerprint m =
      writeEntries json m.memory.path (entries.insert host (normalizeBytes unicode fingerprint))
        ⟨⟨m.memory.put (entries.insert host (normalizeBytes unicode fingerprint)), m.disk⟩, m.plan⟩ := by
  rw [save_eq, hrefusal, hentries]

theorem allOrNothing_iff_of_written (hrefusal : m.memory.refusal unicode host fingerprint = none)
    (hentries : m.memory.entries = some entries) (hvalid : entries.Valid)
    (hplan : ∀ outcome ∈ m.plan.take 3, outcome = none) :
    AllOrNothing json unicode host fingerprint m ↔ UTF8.Valid host := by
  unfold AllOrNothing
  rw [save_of_entries hrefusal hentries, (needs_writeEntries ..).ok m.plan hplan]
  exact load_written_iff hvalid (valid_normalize fingerprint) (State.set_disk_self ..)

theorem allOrNothing_iff_of_fault (hrefusal : m.memory.refusal unicode host fingerprint = none)
    (hentries : m.memory.entries = some entries)
    (hplan : ∃ outcome ∈ m.plan.take 3, outcome ≠ none) :
    AllOrNothing json unicode host fingerprint m ↔
      m.memory.find host = some (normalizeBytes unicode fingerprint) := by
  have hfind : ∀ host', m.memory.find host' = entries.find host' := by
    intro host'
    unfold Store.find
    rw [hentries]
    rfl
  have hneeds := @needs_writeEntries json m.memory.path
    (entries.insert host (normalizeBytes unicode fingerprint))
    ⟨m.memory.put (entries.insert host (normalizeBytes unicode fingerprint)), m.disk⟩
  obtain ⟨stop, m', hrun⟩ := hneeds.error m.plan hplan
  have hfails := Triple.of_error (triple_writeEntries m.memory.path _ _) rfl hrun
  obtain ⟨hstop, hmemory, hdisk⟩ := hfails
  have hfind' : ∀ host', m'.memory.find host' =
      (entries.insert host (normalizeBytes unicode fingerprint)).find host' := by
    intro host'
    rw [hmemory]
    rfl
  have hsame : (∀ host', m'.memory.find host' = m.memory.find host') ↔
      (entries.insert host (normalizeBytes unicode fingerprint)).Same entries :=
    forall_congr' fun host' => by rw [hfind', hfind]
  unfold AllOrNothing
  rw [save_of_entries hrefusal hentries, hrun]
  cases stop with
  | panicked => exact absurd rfl hstop
  | failed failure =>
    rw [hfind, ← Entries.insert_same_iff, ← hsame]
    constructor
    · intro h
      exact h.1
    · intro h
      obtain ⟨hget, hcheck⟩ := check_congr h
      exact ⟨h, hget, hcheck, hdisk⟩

/-- A save is all or nothing exactly if it is safe. -/
theorem allOrNothing_iff_safe (hvalid : ∀ entries, m.memory.entries = some entries → entries.Valid) :
    AllOrNothing json unicode host fingerprint m ↔ Safe unicode host fingerprint m := by
  have hsave := @save_eq json unicode host fingerprint m
  cases hrefusal : m.memory.refusal unicode host fingerprint with
  | some err =>
    simp only [hrefusal] at hsave
    unfold AllOrNothing Safe
    rw [hsave, hrefusal]
    simp
  | none =>
    cases hentries : m.memory.entries with
    | none =>
      simp only [hrefusal, hentries] at hsave
      unfold AllOrNothing Safe
      rw [hsave, hrefusal, hentries]
      simp
    | some entries =>
      have hsome : m.memory.entries ≠ none := by simp [hentries]
      by_cases hplan : ∀ outcome ∈ m.plan.take 3, outcome = none
      · rw [allOrNothing_iff_of_written hrefusal hentries (hvalid entries hentries) hplan]
        constructor
        · intro hhost _
          refine ⟨hsome, fun _ => hhost, fun hfault => ?_⟩
          obtain ⟨outcome, hmem, hne⟩ := hfault
          exact absurd (hplan outcome hmem) hne
        · intro hsafe
          exact (hsafe hrefusal).2.1 hplan
      · have hfault : ∃ outcome ∈ m.plan.take 3, outcome ≠ none := by simpa using hplan
        rw [allOrNothing_iff_of_fault hrefusal hentries hfault]
        constructor
        · intro hfind _
          exact ⟨hsome, fun hnone => absurd hnone hplan, fun _ => hfind⟩
        · intro hsafe
          exact (hsafe hrefusal).2.2 hfault

end Writes

/-- **When a save is all or nothing.** Take any store that `LoadKnownHosts` has read, with any
    confirmer, and any file and outcomes of the file operations. `Save` is all or nothing exactly if
    it refuses, or the map is not nil and either nothing fails and the host is text, or a file
    operation fails and memory held the entry before. -/
theorem save_allOrNothing_iff {μ : Type} {path : Bytes} {m₀ m₀' : Machine μ Bytes Bytes Err}
    {k : Store} (hload : loadKnownHosts json path m₀ = .ok k m₀')
    (confirm : Option (Bytes → Bytes → Except Err Bool)) (host fingerprint : Bytes)
    (disk : Bytes → Option Bytes) (plan : List (Option (Fault Bytes Err))) :
    AllOrNothing json unicode host fingerprint ⟨⟨{ k with confirm := confirm }, disk⟩, plan⟩ ↔
      Safe unicode host fingerprint ⟨⟨{ k with confirm := confirm }, disk⟩, plan⟩ := by
  refine allOrNothing_iff_safe fun entries hentries => ?_
  have hsame : k.entries = some entries := hentries
  exact valid_of_loadKnownHosts hload hsame

/-! ## A codec to run the store with -/

def writeMap (entries : Entries) : Bytes :=
  entries.flatMap fun entry => 2 :: (Fields.write entry.1 ++ Fields.write entry.2)

/-- Read at most `n` entries. -/
def readMap : Nat → Bytes → Entries
  | n + 1, 2 :: rest =>
    let (host, rest) := Fields.read rest
    let (value, rest) := Fields.read rest
    (host, value) :: readMap n rest
  | _, _ => []

theorem readMap_writeMap (entries : Entries) (n : Nat) (h : entries.length ≤ n) :
    readMap n (writeMap entries ++ [10]) = entries := by
  induction entries generalizing n with
  | nil => cases n <;> rfl
  | cons entry entries ih =>
    obtain ⟨host, value⟩ := entry
    cases n with
    | zero =>
      rw [List.length_cons] at h
      omega
    | succ n =>
      have hcons : writeMap ((host, value) :: entries) ++ [10] =
          2 :: (Fields.write host ++ (Fields.write value ++ (writeMap entries ++ [10]))) := by
        simp [writeMap]
      rw [List.length_cons] at h
      rw [hcons, readMap, Fields.read_write]
      simp only [Fields.read_write]
      rw [ih n (by omega)]

theorem length_le_writeMap (entries : Entries) : entries.length ≤ (writeMap entries).length := by
  induction entries with
  | nil => exact Nat.le_refl 0
  | cons entry entries ih =>
    have hcons : (writeMap (entry :: entries)).length =
        1 + ((Fields.write entry.1).length + (Fields.write entry.2).length) +
          (writeMap entries).length := by
      simp [writeMap]
      omega
    rw [List.length_cons, hcons]
    omega

/-- What is read of an entry is text. -/
def coerceEntry (entry : Bytes × Bytes) : Bytes × Bytes :=
  (UTF8.encode (UTF8.coerce entry.1), UTF8.encode (UTF8.coerce entry.2))

theorem map_coerceEntry {entries : Entries} (h : entries.Valid) : entries.map coerceEntry = entries := by
  refine (List.map_congr_left fun entry hentry => ?_).trans (List.map_id _)
  obtain ⟨hhost, hvalue⟩ := h entry hentry
  unfold coerceEntry
  rw [UTF8.encode_coerce_iff.2 hhost, UTF8.encode_coerce_iff.2 hvalue]
  rfl

def sampleMapJSON : MapJSON where
  marshalIndent := writeMap
  unmarshal data :=
    if data = [110, 117, 108, 108] then .ok none
    else .ok (some ((readMap data.length data).map coerceEntry))
  unmarshal_marshalIndent := by
    intro entries hentries
    refine ⟨entries, ?_, fun _ => rfl⟩
    have hlength := length_le_writeMap entries
    have hnull : writeMap entries ++ [10] ≠ [110, 117, 108, 108] := by
      cases entries with
      | nil => decide
      | cons entry entries => simp [writeMap]
    have hread := readMap_writeMap entries (writeMap entries ++ [10]).length
      (by rw [List.length_append]; omega)
    rw [if_neg hnull, hread, map_coerceEntry hentries]
  valid_of_unmarshal := by
    intro data read h
    split at h
    · cases h
    · cases h
      intro entry hentry
      obtain ⟨raw, _, rfl⟩ := List.mem_map.1 hentry
      exact ⟨⟨_, rfl⟩, ⟨_, rfl⟩⟩
  unmarshal_null := rfl

/-- A machine without files. -/
def blank : Machine Unit Bytes Bytes Err := ⟨⟨(), fun _ => none⟩, []⟩

def sayYes : Option (Bytes → Bytes → Except Err Bool) := some fun _ _ => .ok true

def noSpace : Option (Fault Bytes Err) := some ⟨.error (.message "no space left on device"), none⟩

/-- A store of a new file, with a confirmer that accepts. -/
def fresh (plan : List (Option (Fault Bytes Err))) : Machine Store Bytes Bytes Err :=
  ⟨⟨⟨[107], some [], sayYes⟩, fun _ => none⟩, plan⟩

/-- Without a failure the entry is saved. -/
theorem fresh_saved : loadKnownHosts sampleMapJSON [107] blank = .ok ⟨[107], some [], none⟩ blank ∧
    AllOrNothing sampleMapJSON Clients.sampleUnicode [115] [97, 98] (fresh []) := by
  have hload : loadKnownHosts sampleMapJSON [107] blank = .ok ⟨[107], some [], none⟩ blank := rfl
  refine ⟨hload, (save_allOrNothing_iff hload sayYes [115] [97, 98] (fun _ => none) []).2 ?_⟩
  intro _
  refine ⟨nofun, fun _ => ⟨['s'], by decide⟩, fun hfault => ?_⟩
  obtain ⟨outcome, hmem, _⟩ := hfault
  cases hmem

/-- The disk is full, and the fingerprint is trusted all the same: `WriteFile` fails, but the store
    has the entry, and saves it next time without asking. A file that holds `null` makes it panic. -/
theorem fresh_trusted :
    (∃ m', save sampleMapJSON Clients.sampleUnicode [115] [97, 98] (fresh [none, noSpace]) =
        .error (.failed (.error (.message "no space left on device"))) m' ∧
      m'.memory.get [115] = [65, 66] ∧ (fresh [none, noSpace]).memory.get [115] = [] ∧
      Store.refusal Clients.sampleUnicode { m'.memory with confirm := none } [115] [97, 98] = none) ∧
    ¬ AllOrNothing sampleMapJSON Clients.sampleUnicode [115] [97, 98] (fresh [none, noSpace]) ∧
    (∃ k m m', loadKnownHosts sampleMapJSON [107]
        (⟨⟨(), fun _ => some [110, 117, 108, 108]⟩, []⟩ : Machine Unit Bytes Bytes Err) = .ok k m ∧
      save sampleMapJSON Clients.sampleUnicode [115] [97, 98]
        ⟨⟨{ k with confirm := sayYes }, fun _ => none⟩, []⟩ = .error .panicked m') := by
  have hrefusal : (fresh [none, noSpace]).memory.refusal Clients.sampleUnicode [115] [97, 98] =
      none := by decide +kernel
  refine ⟨⟨_, rfl, ?_, ?_, ?_⟩, ?_, ⟨_, _, _, rfl, rfl⟩⟩
  · decide +kernel
  · decide +kernel
  · decide +kernel
  · rw [allOrNothing_iff_safe]
    · intro h
      have hfind := (h hrefusal).2.2 ⟨noSpace, .tail _ (.head _), nofun⟩
      cases hfind
    · intro entries hentries
      cases hentries
      intro entry hentry
      cases hentry

end LnProxy.Trust.StoreFile
