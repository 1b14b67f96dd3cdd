import LnProxy.Lib.Script
import LnProxy.Proxy.HTTPConnect

set_option autoImplicit false

/-! # The desktop's proxy settings (`internal/systemproxy`)

A backend keeps the proxy settings of one desktop. `Snapshot` reads the settings one after another,
`Apply` and `Restore` write them one after another, and `Matches` compares a snapshot with an
endpoint. The tools behind a backend (`gsettings`, `kreadconfig` and `kwriteconfig`, the registry) are
a key-value store: a get gives the value last set, an absent value reads as the empty text, and
`gsettings` refuses a value that is not of the type of its key. The quotes that `gsettings` prints
around a text and `gsettingsGet` takes off again belong to the format of the tool; `kread` takes white
space off the value itself. -/

namespace LnProxy.SystemProxy

open Script

/-- What `New` returns. -/
inductive Backend where
  | gnome
  | kde
  | windows
  | unsupported
  deriving DecidableEq, Repr

/-- The system the program is built for. -/
inductive Platform where
  | linux
  | windows
  | other
  deriving DecidableEq, Repr

/-- `New` can return the backend: on Linux it goes by the environment of the process and the commands
    it finds. -/
def Platform.detects : Platform → Backend → Bool
  | .linux, .gnome | .linux, .kde | .linux, .unsupported => true
  | .windows, .windows => true
  | .other, .unsupported => true
  | _, _ => false

def backends : List Backend := [.gnome, .kde, .windows, .unsupported]

inductive Key where
  | gnomeMode
  | gnomeHTTPHost
  | gnomeHTTPPort
  | gnomeHTTPSHost
  | gnomeHTTPSPort
  | gnomeSOCKSHost
  | gnomeIgnoreHosts
  | gnomeAutoconfigURL
  | kdeProxyType
  | kdeHTTPProxy
  | kdeHTTPSProxy
  | kdeSOCKSProxy
  | kdeNoProxyFor
  | kdeProxyConfigScript
  | winProxyEnable
  | winProxyServer
  | winProxyOverride
  | winAutoConfigURL
  deriving DecidableEq, Repr

/-- The desktop whose setting it is. -/
def Key.owner : Key → Backend
  | .gnomeMode | .gnomeHTTPHost | .gnomeHTTPPort | .gnomeHTTPSHost | .gnomeHTTPSPort
  | .gnomeSOCKSHost | .gnomeIgnoreHosts | .gnomeAutoconfigURL => .gnome
  | .kdeProxyType | .kdeHTTPProxy | .kdeHTTPSProxy | .kdeSOCKSProxy | .kdeNoProxyFor
  | .kdeProxyConfigScript => .kde
  | .winProxyEnable | .winProxyServer | .winProxyOverride | .winAutoConfigURL => .windows

abbrev Settings := Key → List Char

structure Endpoint where
  http : List Char
  https : List Char
  socks : List Char
  deriving DecidableEq, Repr

def Endpoint.httpsOrDefault (endpoint : Endpoint) : List Char :=
  if endpoint.https ≠ [] then endpoint.https else endpoint.http

/-- `ErrUnsupported` -/
def errUnsupported : Err :=
  .message "system proxy settings are unsupported in this environment"

/-! ## Snapshots -/

/-- The JSON names of the three snapshot structures. -/
inductive Field where
  | mode
  | http
  | https
  | socks
  | ignore
  | autoconf
  | proxyType
  | noProxy
  | pac
  | proxyEnable
  | proxyServer
  | proxyOverride
  | autoConfigURL
  deriving DecidableEq, Repr

/-- The JSON object of a snapshot. -/
abbrev Snapshot := List (Field × List Char)

/-- `json.Unmarshal` into a structure: a name the object does not have leaves the field empty. -/
def Snapshot.value (snapshot : Snapshot) (field : Field) : List Char :=
  (snapshot.lookup field).getD []

/-- The fields of a backend's snapshot in the order in which `Snapshot` reads them. The two GNOME
    ports are not among them. -/
def fields : Backend → List (Field × Key)
  | .gnome => [(.mode, .gnomeMode), (.http, .gnomeHTTPHost), (.https, .gnomeHTTPSHost),
      (.socks, .gnomeSOCKSHost), (.ignore, .gnomeIgnoreHosts), (.autoconf, .gnomeAutoconfigURL)]
  | .kde => [(.proxyType, .kdeProxyType), (.http, .kdeHTTPProxy), (.https, .kdeHTTPSProxy),
      (.socks, .kdeSOCKSProxy), (.noProxy, .kdeNoProxyFor), (.pac, .kdeProxyConfigScript)]
  | .windows => [(.proxyEnable, .winProxyEnable), (.proxyServer, .winProxyServer),
      (.proxyOverride, .winProxyOverride), (.autoConfigURL, .winAutoConfigURL)]
  | .unsupported => []

/-- A `uint32` in decimal; an absent number is zero. -/
def number (text : List Char) : List Char := if text = [] then ['0'] else text

/-- What the getter of a key makes of the value: `kread` takes the white space off at both ends. -/
def clean (key : Key) (value : List Char) : List Char :=
  if key.owner = .kde then trim isSpace value
  else if key = .winProxyEnable then number value
  else value

/-- A setting as `Snapshot` reads it. -/
def get (settings : Settings) (key : Key) : List Char := clean key (settings key)

/-- Read some fields. -/
def read (settings : Settings) (fields : List (Field × Key)) : Snapshot :=
  fields.map fun (field, key) => (field, get settings key)

/-- `Snapshot`, where nothing fails and nothing changes meanwhile. -/
def snapshot (backend : Backend) (settings : Settings) : Snapshot := read settings (fields backend)

/-! ## `Apply`, `Matches` and `Restore` -/

/-- `splitEndpoint`; the only error is `invalid proxy endpoint`. -/
def splitEndpoint (endpoint : List Char) : Option (List Char × List Char) :=
  if endpoint = [] then some ([], ['0']) else Proxy.netSplitHostPort endpoint

def errInvalidEndpoint : Err := .message "invalid proxy endpoint"

/-- `gsettings` knows three modes and takes a number for a port. -/
def refuses (key : Key) (value : List Char) : Option Err :=
  match key with
  | .gnomeMode =>
    if value ∈ ["none".toList, "manual".toList, "auto".toList] then none
    else some (.message "exit status 1")
  | .gnomeHTTPPort | .gnomeHTTPSPort =>
    match Proxy.digits value with
    | some n => if n ≤ 65535 then none else some (.message "exit status 1")
    | none => some (.message "exit status 1")
  | _ => none

/-- The text Windows keeps in `ProxyServer`. -/
def server (endpoint : Endpoint) : List Char :=
  "http=".toList ++ endpoint.http ++
    (if endpoint.https ≠ [] then ";https=".toList ++ endpoint.https else []) ++
    (if endpoint.socks ≠ [] then ";socks=".toList ++ endpoint.socks else [])

/-- `Apply` -/
def apply (backend : Backend) (endpoint : Endpoint) : List (Command Key (List Char) Err) :=
  match backend with
  | .gnome =>
    .set .gnomeMode "manual".toList true ::
      match splitEndpoint endpoint.http with
      | none => [.fail errInvalidEndpoint]
      | some (host, port) =>
        let (httpsHost, httpsPort) := (splitEndpoint endpoint.https).getD (host, port)
        [.set .gnomeHTTPHost host true, .set .gnomeHTTPPort port true,
          .set .gnomeHTTPSHost httpsHost true, .set .gnomeHTTPSPort httpsPort true]
  | .kde =>
    match splitEndpoint endpoint.http with
    | none => [.fail errInvalidEndpoint]
    | some _ =>
      [.set .kdeProxyType ['1'] true, .set .kdeHTTPProxy endpoint.http true,
        .set .kdeHTTPSProxy endpoint.httpsOrDefault true] ++
      if endpoint.socks ≠ [] then [.set .kdeSOCKSProxy endpoint.socks true] else []
  | .windows =>
    [.set .winProxyServer (server endpoint) true, .set .winProxyEnable ['1'] true,
      .set .winAutoConfigURL [] false]
  | .unsupported => [.fail errUnsupported]

/-- `Matches`; on Windows it does not look at the snapshot and reads the settings again. -/
def matchesEndpoint (backend : Backend) (settings : Settings) (snapshot : Snapshot) (endpoint : Endpoint) :
    Except Err Bool :=
  match backend with
  | .gnome =>
    match splitEndpoint endpoint.http, splitEndpoint endpoint.httpsOrDefault with
    | some (httpHost, httpPort), some (httpsHost, httpsPort) =>
      .ok (snapshot.value .mode = "manual".toList ∧ snapshot.value .http = httpHost ∧
        snapshot.value .https = httpsHost ∧ snapshot.value .autoconf = [] ∧ httpPort = httpsPort)
    | _, _ => .error errInvalidEndpoint
  | .kde =>
    .ok (snapshot.value .proxyType = ['1'] ∧ snapshot.value .http = endpoint.http ∧
      snapshot.value .https = endpoint.httpsOrDefault)
  | .windows =>
    .ok (get settings .winProxyEnable = ['1'] ∧ get settings .winProxyServer = server endpoint ∧
      get settings .winAutoConfigURL = [])
  | .unsupported => .error errUnsupported

/-- `Restore` -/
def restore (backend : Backend) (snapshot : Snapshot) : List (Command Key (List Char) Err) :=
  match backend with
  | .gnome =>
    -- the snapshot has the host alone, and the error of taking it apart is dropped
    let (host, port) := (splitEndpoint (snapshot.value .http)).getD ([], [])
    let (httpsHost, httpsPort) := (splitEndpoint (snapshot.value .https)).getD ([], [])
    [.set .gnomeMode (snapshot.value .mode) true,
      .set .gnomeHTTPHost host false, .set .gnomeHTTPPort port false,
      .set .gnomeHTTPSHost httpsHost false, .set .gnomeHTTPSPort httpsPort false,
      .set .gnomeAutoconfigURL (snapshot.value .autoconf) true]
  | .kde =>
    [.set .kdeProxyType (snapshot.value .proxyType) true,
      .set .kdeHTTPProxy (snapshot.value .http) false,
      .set .kdeHTTPSProxy (snapshot.value .https) false,
      .set .kdeSOCKSProxy (snapshot.value .socks) false,
      .set .kdeNoProxyFor (snapshot.value .noProxy) false,
      .set .kdeProxyConfigScript (snapshot.value .pac) false]
  | .windows =>
    [.set .winProxyEnable (number (snapshot.value .proxyEnable)) true,
      .set .winProxyServer (snapshot.value .proxyServer) true,
      .set .winProxyOverride (snapshot.value .proxyOverride) true,
      -- the error of deleting a value is dropped, that of setting it is not
      .set .winAutoConfigURL (snapshot.value .autoConfigURL)
        (decide (snapshot.value .autoConfigURL ≠ []))]
  | .unsupported => []

variable {backend : Backend} {key : Key} {value : List Char} {checked : Bool}

/-- `Restore` writes no key twice. -/
theorem restore_assigned {snapshot : Snapshot}
    (h : .set key value checked ∈ restore backend snapshot) :
    assigned key (restore backend snapshot) = some value := by
  cases backend with
  | gnome | kde =>
    simp only [restore, List.mem_cons, List.not_mem_nil, or_false] at h
    rcases h with h | h | h | h | h | h <;> cases h <;> rfl
  | windows =>
    simp only [restore, List.mem_cons, List.not_mem_nil, or_false] at h
    rcases h with h | h | h | h <;> cases h <;> rfl
  | unsupported => cases h

/-! ## What the operations touch -/

theorem owner_of_mem_fields :
    ∀ pair ∈ fields backend, pair.2.owner = backend := by
  cases backend <;> decide

theorem read_update {pairs : List (Field × Key)} (settings : Settings)
    (value : List Char) (h : key ∉ pairs.map Prod.snd) :
    read (Function.update settings key value) pairs = read settings pairs := by
  refine List.map_congr_left ?_
  rintro ⟨field, key'⟩ hmem
  have hne : key' ≠ key := by
    rintro rfl
    exact h (List.mem_map.2 ⟨_, hmem, rfl⟩)
  simp only [get, Function.update_of_ne hne]

theorem snapshot_congr {settings settings' : Settings}
    (h : ∀ pair ∈ fields backend, get settings pair.2 = get settings' pair.2) :
    snapshot backend settings = snapshot backend settings' :=
  List.map_congr_left fun pair hpair => congrArg (pair.1, ·) (h pair hpair)

/-- A write leaves the snapshots of the other desktops alone. -/
theorem snapshot_update (settings : Settings) (value : List Char)
    (h : key.owner ≠ backend) :
    snapshot backend (Function.update settings key value) = snapshot backend settings := by
  refine read_update settings value ?_
  intro hmem
  obtain ⟨pair, hpair, rfl⟩ := List.mem_map.1 hmem
  exact h (owner_of_mem_fields pair hpair)

/-- The names of a snapshot tell which backend has taken it. -/
theorem backend_of_fields {backend backend' : Backend}
    (h : (fields backend).map Prod.fst = (fields backend').map Prod.fst) : backend = backend' := by
  cases backend <;> cases backend' <;> first | rfl | simp [fields] at h

theorem map_fst_snapshot (backend : Backend) (settings : Settings) :
    (snapshot backend settings).map Prod.fst = (fields backend).map Prod.fst := by
  simp [snapshot, read, Function.comp_def]

/-- What a snapshot has under a name of its backend. -/
theorem value_snapshot (backend : Backend) (settings : Settings) :
    ∀ pair ∈ fields backend, (snapshot backend settings).value pair.1 = get settings pair.2 := by
  have hmap : (fields backend).map (fun pair => (snapshot backend settings).value pair.1) =
      (fields backend).map (fun pair => get settings pair.2) := by
    cases backend <;> rfl
  exact List.map_eq_map_iff.1 hmap

/-- The settings as a snapshot tells them; a setting that reads so, and what the snapshot does not
    tell, is as given. -/
def noted (backend : Backend) (before : Snapshot) (settings : Settings) : Settings := fun key =>
  match (fields backend).find? fun pair => pair.2 = key with
  | some pair => if get settings key = before.value pair.1 then settings key else before.value pair.1
  | none => settings key

theorem noted_snapshot (backend : Backend) (seen settings : Settings) (key : Key) :
    noted backend (snapshot backend seen) settings key =
      if key ∈ (fields backend).map Prod.snd ∧ get settings key ≠ get seen key then get seen key
      else settings key := by
  unfold noted
  split
  · next pair hfind =>
    have hpair := List.mem_of_find?_eq_some hfind
    have hkey : pair.2 = key := by simpa using List.find?_some hfind
    rw [value_snapshot backend seen pair hpair, hkey]
    have hmem : key ∈ (fields backend).map Prod.snd := List.mem_map.2 ⟨pair, hpair, hkey⟩
    by_cases hsame : get settings key = get seen key <;> simp [hsame, hmem]
  · next hfind =>
    rw [List.find?_eq_none] at hfind
    rw [if_neg]
    rintro ⟨hmem, -⟩
    obtain ⟨pair, hpair, hkey⟩ := List.mem_map.1 hmem
    exact hfind pair hpair (by simpa using hkey)

theorem clean_clean (key : Key) (value : List Char) : clean key (clean key value) = clean key value := by
  unfold clean
  split
  · exact trim_trim isSpace value
  · split
    · unfold number
      split <;> simp_all
    · rfl

/-- The settings as a snapshot tells them have that snapshot. -/
theorem snapshot_noted (backend : Backend) (seen settings : Settings) :
    snapshot backend (noted backend (snapshot backend seen) settings) = snapshot backend seen := by
  refine snapshot_congr fun pair hpair => ?_
  have hkey : pair.2 ∈ (fields backend).map Prod.snd := List.mem_map_of_mem hpair
  rw [get, noted_snapshot]
  split
  · exact clean_clean pair.2 _
  · next hsame => exact not_not.1 fun hne => hsame ⟨hkey, hne⟩

/-- The settings `Restore` writes: all but two of GNOME's. -/
def Key.restored : Key → Bool
  | .gnomeSOCKSHost | .gnomeIgnoreHosts => false
  | _ => true

theorem owner_of_mem_apply {endpoint : Endpoint}
    (h : Command.set key value checked ∈ apply backend endpoint) :
    key.owner = backend ∧ key.restored = true := by
  cases backend with
  | gnome =>
    simp only [apply] at h
    cases hsplit : splitEndpoint endpoint.http with
    | none =>
      simp only [hsplit, List.mem_cons, Command.set.injEq, reduceCtorEq, List.not_mem_nil,
        or_false] at h
      rw [h.1]
      exact ⟨rfl, rfl⟩
    | some pair =>
      simp only [hsplit, List.mem_cons, Command.set.injEq, List.not_mem_nil, or_false] at h
      rcases h with h | h | h | h | h <;> rw [h.1] <;> exact ⟨rfl, rfl⟩
  | kde =>
    simp only [apply] at h
    cases hsplit : splitEndpoint endpoint.http with
    | none => simp [hsplit] at h
    | some pair =>
      simp only [hsplit, List.mem_append, List.mem_cons, Command.set.injEq, List.not_mem_nil,
        or_false] at h
      rcases h with (h | h | h) | h
      · rw [h.1]
        exact ⟨rfl, rfl⟩
      · rw [h.1]
        exact ⟨rfl, rfl⟩
      · rw [h.1]
        exact ⟨rfl, rfl⟩
      · split at h <;> simp only [List.mem_cons, Command.set.injEq, List.not_mem_nil, or_false] at h
        rw [h.1]
        exact ⟨rfl, rfl⟩
  | windows =>
    simp only [apply, List.mem_cons, Command.set.injEq, List.not_mem_nil, or_false] at h
    rcases h with h | h | h <;> rw [h.1] <;> exact ⟨rfl, rfl⟩
  | unsupported => simp [apply] at h

theorem owner_of_mem_restore {before : Snapshot}
    (h : Command.set key value checked ∈ restore backend before) :
    key.owner = backend ∧ key.restored = true := by
  cases backend with
  | gnome | kde =>
    simp only [restore, List.mem_cons, Command.set.injEq, List.not_mem_nil, or_false] at h
    rcases h with h | h | h | h | h | h <;> rw [h.1] <;> exact ⟨rfl, rfl⟩
  | windows =>
    simp only [restore, List.mem_cons, Command.set.injEq, List.not_mem_nil, or_false] at h
    rcases h with h | h | h | h <;> rw [h.1] <;> exact ⟨rfl, rfl⟩
  | unsupported => simp [restore] at h

/-! ## `Restore` against `Snapshot` -/

/-- The backend gives a snapshot back: it has taken the snapshot itself, and on GNOME the two hosts,
    which `Restore` takes for endpoints, are empty. -/
def faithful (backend : Backend) (before : Snapshot) : Bool :=
  decide (before.map Prod.fst = (fields backend).map Prod.fst) &&
    (decide (backend ≠ .gnome) || decide (before.value .http = [] ∧ before.value .https = []))

/-- **A completed `Restore` gives back the snapshot.** The settings GNOME's `Restore` does not write
    have to be as they were. -/
theorem snapshot_complete_restore {settings settings₀ : Settings}
    (hfaithful : faithful backend (snapshot backend settings₀) = true)
    (hkept : ∀ key, key.restored = false → settings key = settings₀ key) :
    snapshot backend (complete (restore backend (snapshot backend settings₀)) settings) =
      snapshot backend settings₀ := by
  cases backend with
  | gnome =>
    have hsocks := hkept .gnomeSOCKSHost rfl
    have hignore := hkept .gnomeIgnoreHosts rfl
    simp only [faithful, map_fst_snapshot, decide_true, Bool.true_and, ne_eq, not_true,
      decide_false, Bool.false_or, decide_eq_true_eq] at hfaithful
    obtain ⟨hhttp, hhttps⟩ := hfaithful
    have hsplit : splitEndpoint [] = some ([], ['0']) := rfl
    simp only [restore, hhttp, hhttps, hsplit, Option.getD_some]
    have hhttp₀ : settings₀ .gnomeHTTPHost = [] := hhttp
    have hhttps₀ : settings₀ .gnomeHTTPSHost = [] := hhttps
    change [(Field.mode, settings₀ .gnomeMode), (.http, []), (.https, []),
        (.socks, settings .gnomeSOCKSHost), (.ignore, settings .gnomeIgnoreHosts),
        (.autoconf, settings₀ .gnomeAutoconfigURL)] =
      [(Field.mode, settings₀ .gnomeMode), (.http, settings₀ .gnomeHTTPHost),
        (.https, settings₀ .gnomeHTTPSHost), (.socks, settings₀ .gnomeSOCKSHost),
        (.ignore, settings₀ .gnomeIgnoreHosts), (.autoconf, settings₀ .gnomeAutoconfigURL)]
    rw [hsocks, hignore, hhttp₀, hhttps₀]
  | kde =>
    refine snapshot_congr fun pair hpair => ?_
    have hset : complete (restore .kde (snapshot .kde settings₀)) settings pair.2 =
        get settings₀ pair.2 := by
      simp only [fields, List.mem_cons, List.not_mem_nil, or_false] at hpair
      rcases hpair with rfl | rfl | rfl | rfl | rfl | rfl <;> rfl
    rw [get, hset]
    exact clean_clean pair.2 _
  | windows =>
    refine snapshot_congr fun pair hpair => ?_
    have hset : complete (restore .windows (snapshot .windows settings₀)) settings pair.2 =
        clean pair.2 (get settings₀ pair.2) := by
      simp only [fields, List.mem_cons, List.not_mem_nil, or_false] at hpair
      rcases hpair with rfl | rfl | rfl | rfl <;> rfl
    rw [get, hset, clean_clean]
    exact clean_clean pair.2 _
  | unsupported => rfl

/-! ## `Matches` against `Apply` -/

/-- The settings that both `Apply` writes and `Matches` looks at. -/
def comparedKeys : Backend → List Key
  | .gnome => [.gnomeMode, .gnomeHTTPHost, .gnomeHTTPSHost]
  | .kde => [.kdeProxyType, .kdeHTTPProxy, .kdeHTTPSProxy]
  | .windows => [.winProxyEnable, .winProxyServer, .winAutoConfigURL]
  | .unsupported => []

/-- `Matches` says that the current settings are those of the endpoint. -/
def matched (backend : Backend) (settings : Settings) (endpoint : Endpoint) : Bool :=
  match matchesEndpoint backend settings (snapshot backend settings) endpoint with
  | .ok answer => answer
  | .error _ => false

theorem httpsOrDefault_eq {endpoint : Endpoint} (h : endpoint.https = endpoint.http) :
    endpoint.httpsOrDefault = endpoint.http := by
  unfold Endpoint.httpsOrDefault
  rw [h, ite_self]

/-- Where `Matches` answers yes, the settings it looks at read as `Apply` has written them. -/
theorem assigned_of_matched {settings : Settings} {endpoint : Endpoint}
    {host port : List Char} (hpaired : endpoint.https = endpoint.http)
    (hsplit : splitEndpoint endpoint.http = some (host, port))
    (h : matched backend settings endpoint = true)
    (hcompared : key ∈ comparedKeys backend) :
    assigned key (apply backend endpoint) = some (get settings key) := by
  have hdefault := httpsOrDefault_eq hpaired
  cases backend with
  | gnome =>
    simp only [matched, matchesEndpoint, hdefault, hsplit, decide_eq_true_eq] at h
    obtain ⟨hmode, hhttp, hhttps, -, -⟩ := h
    have hmode₀ : get settings .gnomeMode = "manual".toList := hmode
    have hhttp₀ : get settings .gnomeHTTPHost = host := hhttp
    have hhttps₀ : get settings .gnomeHTTPSHost = host := hhttps
    simp only [comparedKeys, List.mem_cons, List.not_mem_nil, or_false] at hcompared
    rcases hcompared with rfl | rfl | rfl
    · simp [apply, hsplit, assigned, hmode₀]
    · simp [apply, hsplit, assigned, hhttp₀]
    · simp [apply, hsplit, hpaired, assigned, hhttps₀]
  | kde =>
    simp only [matched, matchesEndpoint, decide_eq_true_eq] at h
    obtain ⟨htype, hhttp, hhttps⟩ := h
    have htype₀ : get settings .kdeProxyType = ['1'] := htype
    have hhttp₀ : get settings .kdeHTTPProxy = endpoint.http := hhttp
    have hhttps₀ : get settings .kdeHTTPSProxy = endpoint.httpsOrDefault := hhttps
    simp only [comparedKeys, List.mem_cons, List.not_mem_nil, or_false] at hcompared
    -- the entry for SOCKS, where there is one, is another key
    by_cases hsocks : endpoint.socks = [] <;> rcases hcompared with rfl | rfl | rfl <;>
      simp [apply, hsplit, hsocks, assigned, htype₀, hhttp₀, hhttps₀]
  | windows =>
    simp only [matched, matchesEndpoint, decide_eq_true_eq] at h
    obtain ⟨henable, hserver, hautoconfig⟩ := h
    simp only [comparedKeys, List.mem_cons, List.not_mem_nil, or_false] at hcompared
    rcases hcompared with rfl | rfl | rfl
    · simp [apply, assigned, henable]
    · simp [apply, assigned, hserver]
    · simp [apply, assigned, hautoconfig]
  | unsupported => cases h

end LnProxy.SystemProxy
