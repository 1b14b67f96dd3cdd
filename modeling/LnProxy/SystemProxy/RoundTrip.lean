import LnProxy.Proxy.HostPort
import LnProxy.SystemProxy.Backend

set_option autoImplicit false

/-! # `Apply` against `Restore` and `Matches`

What `Restore` gives back and what `Matches` sees, where no command fails but those that the store
refuses and nobody else writes.

On KDE and Windows `Restore` writes every setting that `Apply` has written, from the snapshot, which
on KDE has lost the white space around a value. On GNOME the snapshot has no ports, and `Restore` takes
the hosts in it for whole endpoints: a host alone is none, so the host is emptied and the port stays
that of the proxy; an empty host comes back with the port zero.

`Matches` looks at three settings. GNOME's ports and KDE's entry for SOCKS are not among them, and on
GNOME it wants an empty autoconfiguration URL, which `Apply` does not write. -/

namespace LnProxy.SystemProxy

open Script

variable {backend : Backend} {endpoint : Endpoint} {settings : Settings} {key : Key}

/-! ## Endpoints -/

/-- A host and a port that `gsettings` takes, with no white space around them. -/
def validAddress (address : List Char) : Bool :=
  decide (trim isSpace address = address) &&
    match Proxy.netSplitHostPort address with
    | some (_, port) => (refuses .gnomeHTTPPort port).isNone
    | none => false

/-- The addresses of the endpoint are valid; HTTPS and SOCKS may be left out. -/
def Endpoint.valid (endpoint : Endpoint) : Bool :=
  validAddress endpoint.http && (decide (endpoint.https = []) || validAddress endpoint.https) &&
    (decide (endpoint.socks = []) || validAddress endpoint.socks)

theorem splitEndpoint_of_validAddress {address : List Char} (h : validAddress address = true) :
    ∃ host port, splitEndpoint address = some (host, port) ∧ refuses .gnomeHTTPPort port = none := by
  unfold validAddress at h
  rw [Bool.and_eq_true] at h
  replace h := h.2
  cases hsplit : Proxy.netSplitHostPort address with
  | none => simp [hsplit] at h
  | some pair =>
    obtain ⟨host, port⟩ := pair
    have hne : address ≠ [] := by
      intro hnil
      subst hnil
      cases hsplit
    refine ⟨host, port, ?_, by simpa [hsplit] using h⟩
    rw [splitEndpoint, if_neg hne, hsplit]

theorem splitEndpoint_of_valid (hvalid : endpoint.valid = true) :
    ∃ host port, splitEndpoint endpoint.http = some (host, port) ∧
      refuses .gnomeHTTPPort port = none ∧ trim isSpace endpoint.http = endpoint.http := by
  simp only [Endpoint.valid, Bool.and_eq_true] at hvalid
  obtain ⟨host, port, hsplit, hport⟩ := splitEndpoint_of_validAddress hvalid.1.1
  have haddress := hvalid.1.1
  simp only [validAddress, Bool.and_eq_true, decide_eq_true_eq] at haddress
  exact ⟨host, port, hsplit, hport, haddress.1⟩

/-- The store takes every write of `Apply`. -/
theorem apply_accepted (hbackend : backend ≠ .unsupported)
    (hvalid : endpoint.valid = true) :
    ∀ command ∈ apply backend endpoint, command.failure refuses none = none := by
  obtain ⟨host, port, hsplit, hport, -⟩ := splitEndpoint_of_valid hvalid
  simp only [Endpoint.valid, Bool.and_eq_true, Bool.or_eq_true, decide_eq_true_eq] at hvalid
  cases backend with
  | gnome =>
    obtain ⟨host', port', hsplit', hport'⟩ : ∃ host' port',
        splitEndpoint endpoint.https = some (host', port') ∧
          refuses .gnomeHTTPPort port' = none := by
      rcases hvalid.1.2 with hempty | hhttps
      · exact ⟨[], ['0'], by rw [hempty]; rfl, by decide⟩
      · exact splitEndpoint_of_validAddress hhttps
    intro command hmem
    simp only [apply, hsplit, hsplit', Option.getD_some, List.mem_cons, List.not_mem_nil,
      or_false] at hmem
    rcases hmem with rfl | rfl | rfl | rfl | rfl
    · decide
    · rfl
    · exact hport
    · rfl
    · exact hport'
  | kde =>
    intro command hmem
    simp only [apply, hsplit, List.mem_append, List.mem_cons, List.not_mem_nil, or_false,
      List.mem_ite_nil_right] at hmem
    rcases hmem with (rfl | rfl | rfl) | ⟨-, rfl⟩ <;> rfl
  | windows =>
    intro command hmem
    simp only [apply, List.mem_cons, List.not_mem_nil, or_false] at hmem
    rcases hmem with rfl | rfl | rfl <;> rfl
  | unsupported => exact absurd rfl hbackend

/-- The settings after a whole `Apply`. -/
def applied (backend : Backend) (endpoint : Endpoint) (settings : Settings) : Settings :=
  (perform refuses (apply backend endpoint) settings).1

theorem applied_eq (hbackend : backend ≠ .unsupported)
    (hvalid : endpoint.valid = true) (settings : Settings) (key : Key) :
    applied backend endpoint settings key =
      (assigned key (apply backend endpoint)).getD (settings key) := by
  rw [applied, perform_eq_complete settings (apply_accepted hbackend hvalid)]
  exact complete_apply _ settings key

/-! ## `Apply` and then `Restore` -/

/-- The settings after `Snapshot`, `Apply` and `Restore` of the snapshot. -/
def roundTrip (backend : Backend) (endpoint : Endpoint) (settings : Settings) : Settings :=
  (perform refuses (restore backend (snapshot backend settings))
    (applied backend endpoint settings)).1

/-- Every setting that `Apply` has written or deleted has its value from before. -/
def GivesBack (backend : Backend) (endpoint : Endpoint) (settings : Settings) : Prop :=
  ∀ key, (assigned key (apply backend endpoint)).isSome = true →
    roundTrip backend endpoint settings key = settings key

/-- What `Apply` writes on KDE. -/
def kdeKeys (endpoint : Endpoint) : List Key :=
  [.kdeProxyType, .kdeHTTPProxy, .kdeHTTPSProxy] ++
    if endpoint.socks ≠ [] then [.kdeSOCKSProxy] else []

/-- The settings that `Restore` can give back. -/
def Restorable (endpoint : Endpoint) (settings : Settings) : Backend → Prop
  | .gnome => refuses .gnomeMode (settings .gnomeMode) = none ∧
      settings .gnomeHTTPHost = [] ∧ settings .gnomeHTTPPort = ['0'] ∧
      settings .gnomeHTTPSHost = [] ∧ settings .gnomeHTTPSPort = ['0']
  -- no white space at the ends
  | .kde => ∀ key ∈ kdeKeys endpoint, trim isSpace (settings key) = settings key
  -- an absent number comes back as zero
  | .windows => settings .winProxyEnable ≠ []
  | .unsupported => True

/-- `Apply` writes settings of its own desktop. -/
theorem owner_of_assigned
    (h : (assigned key (apply backend endpoint)).isSome = true) : key.owner = backend := by
  obtain ⟨value, hvalue⟩ := Option.isSome_iff_exists.1 h
  obtain ⟨checked, hmem⟩ := mem_of_assigned hvalue
  exact (owner_of_mem_apply hmem).1

/-- `Apply` writes five settings on GNOME. -/
theorem assigned_gnome {host port : List Char}
    (hsplit : splitEndpoint endpoint.http = some (host, port)) :
    (assigned key (apply .gnome endpoint)).isSome = true ↔
      key ∈ [Key.gnomeMode, .gnomeHTTPHost, .gnomeHTTPPort, .gnomeHTTPSHost, .gnomeHTTPSPort] := by
  cases key <;> simp [apply, hsplit, assigned]

/-- What GNOME's `Restore` makes of a host in the snapshot, which it takes for an endpoint. -/
def restoredPair (host : List Char) : List Char × List Char := (splitEndpoint host).getD ([], [])

theorem restoredPair_eq_iff {host : List Char} : (restoredPair host).1 = host ↔ host = [] := by
  constructor
  · intro h
    by_contra hne
    unfold restoredPair splitEndpoint at h
    rw [if_neg hne] at h
    cases hsplit : Proxy.netSplitHostPort host with
    | none =>
      rw [hsplit] at h
      exact hne h.symm
    | some pair =>
      rw [hsplit] at h
      have hlt := Proxy.length_host_lt hsplit
      have heq : pair.1 = host := h
      rw [heq] at hlt
      exact Nat.lt_irrefl _ hlt
  · rintro rfl
    rfl

/-- A port is written where `gsettings` takes it; the errors of `Restore` are dropped. -/
def withPort (key : Key) (port : List Char) (settings : Settings) : Settings :=
  if refuses key port = none then Function.update settings key port else settings

theorem perform_withPort (key : Key) (port : List Char) (script : List (Command Key (List Char) Err))
    (settings : Settings) :
    perform refuses (.set key port false :: script) settings =
      perform refuses script (withPort key port settings) := by
  unfold withPort
  split
  · next haccepted => exact perform_set false script settings haccepted
  · next hrefused =>
    obtain ⟨err, herr⟩ := Option.ne_none_iff_exists'.1 hrefused
    exact perform_dropped script settings herr

theorem withPort_self {port : List Char} (settings : Settings)
    (h : refuses key port = none) : withPort key port settings key = port := by
  rw [withPort, if_pos h, Function.update_self]

theorem withPort_of_ne {key other : Key} (port : List Char) (settings : Settings) (h : other ≠ key) :
    withPort key port settings other = settings other := by
  unfold withPort
  split
  · exact Function.update_of_ne h ..
  · rfl

/-- GNOME's `Restore`, where `gsettings` knows the mode in the snapshot. -/
theorem perform_restore_gnome {before : Snapshot} (settings : Settings)
    (hmode : refuses .gnomeMode (before.value .mode) = none) :
    (perform refuses (restore .gnome before) settings).1 =
      Function.update (withPort .gnomeHTTPSPort (restoredPair (before.value .https)).2
        (Function.update (withPort .gnomeHTTPPort (restoredPair (before.value .http)).2
          (Function.update (Function.update settings .gnomeMode (before.value .mode))
            .gnomeHTTPHost (restoredPair (before.value .http)).1))
          .gnomeHTTPSHost (restoredPair (before.value .https)).1))
        .gnomeAutoconfigURL (before.value .autoconf) := by
  simp only [restore]
  rw [perform_set true _ _ hmode, perform_set false _ _ rfl, perform_withPort,
    perform_set false _ _ rfl, perform_withPort, perform_set true _ _ rfl]
  rfl

/-- The values of the round trip on GNOME, where `gsettings` knows the mode. -/
theorem roundTrip_gnome (endpoint : Endpoint)
    (hmode : refuses .gnomeMode (settings .gnomeMode) = none) :
    roundTrip .gnome endpoint settings .gnomeMode = settings .gnomeMode ∧
      roundTrip .gnome endpoint settings .gnomeHTTPHost =
        (restoredPair (settings .gnomeHTTPHost)).1 ∧
      roundTrip .gnome endpoint settings .gnomeHTTPSHost =
        (restoredPair (settings .gnomeHTTPSHost)).1 ∧
      (settings .gnomeHTTPHost = [] →
        roundTrip .gnome endpoint settings .gnomeHTTPPort = ['0']) ∧
      (settings .gnomeHTTPSHost = [] →
        roundTrip .gnome endpoint settings .gnomeHTTPSPort = ['0']) := by
  have hmode' : refuses .gnomeMode ((snapshot .gnome settings).value .mode) = none := hmode
  have heq := perform_restore_gnome (applied .gnome endpoint settings) hmode'
  have hhttp : (snapshot .gnome settings).value .http = settings .gnomeHTTPHost := rfl
  have hhttps : (snapshot .gnome settings).value .https = settings .gnomeHTTPSHost := rfl
  have hzero : restoredPair [] = ([], ['0']) := rfl
  have haccepted : refuses .gnomeHTTPPort ['0'] = none := by decide
  have haccepted' : refuses .gnomeHTTPSPort ['0'] = none := by decide
  unfold roundTrip
  rw [heq, hhttp, hhttps]
  refine ⟨?_, ?_, ?_, ?_, ?_⟩
  · simp [withPort_of_ne]
    rfl
  · simp [withPort_of_ne]
  · simp [withPort_of_ne]
  · intro hempty
    simp [withPort_of_ne, hempty, hzero, withPort_self _ haccepted]
  · intro hempty
    simp [hempty, hzero, withPort_self _ haccepted']

/-- Where `gsettings` does not know the mode, `Restore` fails at once. -/
theorem roundTrip_gnome_refused {err : Err}
    (hvalid : endpoint.valid = true)
    (hmode : refuses .gnomeMode (settings .gnomeMode) = some err) :
    roundTrip .gnome endpoint settings .gnomeMode = "manual".toList := by
  have hmode' : refuses .gnomeMode ((snapshot .gnome settings).value .mode) = some err := hmode
  obtain ⟨host, port, hsplit, -, -⟩ := splitEndpoint_of_valid hvalid
  unfold roundTrip
  simp only [restore]
  rw [perform_refused _ _ hmode']
  show applied .gnome endpoint settings .gnomeMode = _
  rw [applied_eq (by decide) hvalid]
  simp [apply, hsplit, assigned]

/-- Where the store takes all writes of `Restore`, they decide what comes back. -/
theorem roundTrip_eq
    {value : List Char}
    (haccepted : ∀ command ∈ restore backend (snapshot backend settings),
      command.failure refuses none = none)
    (hassigned : assigned key (restore backend (snapshot backend settings)) = some value) :
    roundTrip backend endpoint settings key = value := by
  rw [roundTrip, perform_eq_complete _ haccepted]
  show complete _ _ key = _
  rw [complete_apply, hassigned]
  rfl

theorem restore_accepted (before : Snapshot) (hgnome : backend ≠ .gnome) :
    ∀ command ∈ restore backend before, command.failure refuses none = none := by
  intro command hmem
  cases backend with
  | gnome => exact absurd rfl hgnome
  | kde =>
    simp only [restore, List.mem_cons, List.not_mem_nil, or_false] at hmem
    rcases hmem with rfl | rfl | rfl | rfl | rfl | rfl <;> rfl
  | windows =>
    simp only [restore, List.mem_cons, List.not_mem_nil, or_false] at hmem
    rcases hmem with rfl | rfl | rfl | rfl <;> rfl
  | unsupported => cases hmem

/-- `Restore` writes every setting of KDE and of Windows as the snapshot has read it. -/
theorem roundTrip_eq_get
    (hgnome : backend ≠ .gnome) (howner : key.owner = backend) :
    roundTrip backend endpoint settings key = get settings key := by
  refine roundTrip_eq (restore_accepted _ hgnome) ?_
  subst howner
  cases key with
  | winProxyEnable => exact congrArg some (clean_clean .winProxyEnable _)
  | _ => first | rfl | exact absurd rfl hgnome

theorem givesBack_gnome_iff
    (hvalid : endpoint.valid = true) :
    GivesBack .gnome endpoint settings ↔ Restorable endpoint settings .gnome := by
  obtain ⟨host, port, hsplit, -, -⟩ := splitEndpoint_of_valid hvalid
  unfold GivesBack
  simp only [assigned_gnome hsplit]
  constructor
  · intro h
    have hmode : refuses .gnomeMode (settings .gnomeMode) = none := by
      by_contra hrefused
      obtain ⟨err, herr⟩ := Option.ne_none_iff_exists'.1 hrefused
      have hmanual := roundTrip_gnome_refused hvalid herr
      rw [h .gnomeMode (by simp)] at hmanual
      rw [hmanual] at hrefused
      exact hrefused (by decide)
    obtain ⟨-, hhost, hhost', hport, hport'⟩ := roundTrip_gnome endpoint hmode
    rw [h .gnomeHTTPHost (by simp)] at hhost
    rw [h .gnomeHTTPSHost (by simp)] at hhost'
    rw [h .gnomeHTTPPort (by simp)] at hport
    rw [h .gnomeHTTPSPort (by simp)] at hport'
    have hempty := restoredPair_eq_iff.1 hhost.symm
    have hempty' := restoredPair_eq_iff.1 hhost'.symm
    exact ⟨hmode, hempty, hport hempty, hempty', hport' hempty'⟩
  · rintro ⟨hmode, hempty, hzero, hempty', hzero'⟩ key hkey
    obtain ⟨heq, hhost, hhost', hport, hport'⟩ := roundTrip_gnome endpoint hmode
    simp only [List.mem_cons, List.not_mem_nil, or_false] at hkey
    rcases hkey with rfl | rfl | rfl | rfl | rfl
    · exact heq
    · exact hhost.trans (restoredPair_eq_iff.2 hempty)
    · exact (hport hempty).trans hzero.symm
    · exact hhost'.trans (restoredPair_eq_iff.2 hempty')
    · exact (hport' hempty').trans hzero'.symm

/-- On KDE and Windows the settings come back that read as they are. -/
theorem givesBack_iff_get
    (hgnome : backend ≠ .gnome) : GivesBack backend endpoint settings ↔
      ∀ key, (assigned key (apply backend endpoint)).isSome = true → get settings key = settings key := by
  refine forall_congr' fun key => forall_congr' fun hkey => ?_
  rw [roundTrip_eq_get hgnome (owner_of_assigned hkey)]

theorem givesBack_kde_iff
    (hvalid : endpoint.valid = true) :
    GivesBack .kde endpoint settings ↔ Restorable endpoint settings .kde := by
  obtain ⟨host, port, hsplit, -, -⟩ := splitEndpoint_of_valid hvalid
  have hkeys : ∀ key, (assigned key (apply .kde endpoint)).isSome = true ↔ key ∈ kdeKeys endpoint := by
    intro key
    by_cases hsocks : endpoint.socks = [] <;> cases key <;>
      simp [apply, hsplit, hsocks, assigned, kdeKeys]
  rw [givesBack_iff_get (by decide)]
  simp only [hkeys, Restorable]
  refine forall_congr' fun key => forall_congr' fun hkey => ?_
  rw [get, clean, if_pos (owner_of_assigned ((hkeys key).2 hkey))]

theorem givesBack_windows_iff :
    GivesBack .windows endpoint settings ↔ Restorable endpoint settings .windows := by
  rw [givesBack_iff_get (by decide)]
  constructor
  · intro h hempty
    have henable := h .winProxyEnable (by simp [apply, assigned])
    rw [get, hempty] at henable
    cases henable
  · intro hne key hkey
    cases key with
    | winProxyEnable => exact if_neg hne
    | _ => first | rfl | cases hkey

/-- **What comes back.** For every endpoint with valid addresses and all settings, `Snapshot`, `Apply`
    and `Restore` give back every setting that `Apply` writes or deletes if and only if, on GNOME,
    both hosts are empty and both ports zero, with a mode that `gsettings` knows; on KDE the settings
    that `Apply` writes have no white space around them; and on Windows `ProxyEnable` is not absent. -/
theorem givesBack_iff
    (hvalid : endpoint.valid = true) :
    GivesBack backend endpoint settings ↔ Restorable endpoint settings backend := by
  cases backend with
  | gnome => exact givesBack_gnome_iff hvalid
  | kde => exact givesBack_kde_iff hvalid
  | windows => exact givesBack_windows_iff
  | unsupported => exact ⟨fun _ => trivial, fun _ key hkey => by cases hkey⟩

/-- The endpoint of a client with both listeners. -/
def localEndpoint : Endpoint :=
  ⟨"127.0.0.1:8118".toList, "127.0.0.1:8118".toList, "127.0.0.1:1080".toList⟩

/-- The settings of a new GNOME desktop. -/
def gnomeDefaults : Settings
  | .gnomeMode => "none".toList
  | .gnomeHTTPPort => "8080".toList
  | .gnomeHTTPSPort | .winProxyEnable => "0".toList
  | .gnomeIgnoreHosts => "['localhost', '127.0.0.0/8', '::1']".toList
  | _ => []

/-- A desktop with a proxy of its own. -/
def ownProxy : Settings
  | .gnomeMode => "manual".toList
  | .gnomeHTTPHost | .gnomeHTTPSHost => "proxy.example".toList
  | .gnomeHTTPPort | .gnomeHTTPSPort => "3128".toList
  | .kdeProxyType | .winProxyEnable => "1".toList
  | .kdeHTTPProxy | .kdeHTTPSProxy => "http://proxy.example 3128".toList
  | .winProxyServer => "proxy.example:3128".toList
  | _ => []

theorem ownProxy_givesBack :
    GivesBack .kde localEndpoint ownProxy ∧ GivesBack .windows localEndpoint ownProxy := by
  have hvalid : localEndpoint.valid = true := by decide +kernel
  have hpresent : ownProxy .winProxyEnable ≠ [] := by decide
  have hplain : Restorable localEndpoint ownProxy .kde := by
    unfold Restorable
    decide +kernel
  exact ⟨(givesBack_iff hvalid).2 hplain, (givesBack_iff hvalid).2 hpresent⟩

/-- No command fails, and the port of a new GNOME desktop comes back as zero; the proxy a user has set
    is lost. -/
theorem gnome_not_givesBack :
    localEndpoint.valid = true ∧
      (∀ command ∈ apply .gnome localEndpoint ++ restore .gnome (snapshot .gnome gnomeDefaults),
        command.failure refuses none = none) ∧
      roundTrip .gnome localEndpoint gnomeDefaults .gnomeHTTPPort = "0".toList ∧
      ¬ GivesBack .gnome localEndpoint gnomeDefaults ∧
      roundTrip .gnome localEndpoint ownProxy .gnomeHTTPHost = [] ∧
      roundTrip .gnome localEndpoint ownProxy .gnomeHTTPPort = "8118".toList ∧
      ¬ GivesBack .gnome localEndpoint ownProxy := by
  refine ⟨by decide +kernel, by decide +kernel, by decide +kernel, fun h => ?_, by decide +kernel,
    by decide +kernel, fun h => ?_⟩
  · have hport := h .gnomeHTTPPort (by decide +kernel)
    revert hport
    decide +kernel
  · have hhost := h .gnomeHTTPHost (by decide +kernel)
    revert hhost
    decide +kernel

/-! ## `Matches` after `Apply` -/

/-- The settings that `Apply` has written or cleared have the value it gave them. -/
def AsApplied (backend : Backend) (endpoint : Endpoint) (settings : Settings) : Prop :=
  ∀ key value, assigned key (apply backend endpoint) = some value → settings key = value

/-- On GNOME `Matches` wants no autoconfiguration URL. -/
def NoAutoconfig (settings : Settings) (backend : Backend) : Prop :=
  backend = .gnome → settings .gnomeAutoconfigURL = []

/-- What `Matches` does not look at is as `Apply` has left it: GNOME's ports and KDE's entry for SOCKS.
    There is no autoconfiguration URL on GNOME, and no white space around a value on KDE. -/
def Comparable (endpoint : Endpoint) (settings : Settings) : Backend → Prop
  | .gnome => settings .gnomeAutoconfigURL = [] ∧
      ∀ host port, splitEndpoint endpoint.http = some (host, port) →
        settings .gnomeHTTPPort = port ∧ settings .gnomeHTTPSPort = port
  | .kde => (endpoint.socks ≠ [] → settings .kdeSOCKSProxy = endpoint.socks) ∧
      ∀ key ∈ [Key.kdeProxyType, .kdeHTTPProxy, .kdeHTTPSProxy],
        trim isSpace (settings key) = settings key
  | .windows | .unsupported => True

section Compare

variable {host port : List Char}

theorem asApplied_gnome_iff (hpaired : endpoint.https = endpoint.http)
    (hsplit : splitEndpoint endpoint.http = some (host, port)) :
    AsApplied .gnome endpoint settings ↔ settings .gnomeMode = "manual".toList ∧
      settings .gnomeHTTPHost = host ∧ settings .gnomeHTTPSHost = host ∧
      settings .gnomeHTTPPort = port ∧ settings .gnomeHTTPSPort = port := by
  constructor
  · intro h
    refine ⟨h .gnomeMode _ ?_, h .gnomeHTTPHost _ ?_, h .gnomeHTTPSHost _ ?_, h .gnomeHTTPPort _ ?_,
      h .gnomeHTTPSPort _ ?_⟩ <;> simp [apply, hsplit, hpaired, assigned]
  · rintro ⟨hmode, hhttp, hhttps, hport, hport'⟩ key value hvalue
    cases key <;> simp [apply, hsplit, hpaired, assigned] at hvalue <;> simp_all

theorem asApplied_kde_iff (hpaired : endpoint.https = endpoint.http)
    (hsplit : splitEndpoint endpoint.http = some (host, port)) :
    AsApplied .kde endpoint settings ↔ settings .kdeProxyType = ['1'] ∧
      settings .kdeHTTPProxy = endpoint.http ∧ settings .kdeHTTPSProxy = endpoint.http ∧
      (endpoint.socks ≠ [] → settings .kdeSOCKSProxy = endpoint.socks) := by
  have hdefault := httpsOrDefault_eq hpaired
  constructor
  · intro h
    refine ⟨h .kdeProxyType _ ?_, h .kdeHTTPProxy _ ?_, h .kdeHTTPSProxy _ ?_,
      fun hsocks => h .kdeSOCKSProxy _ ?_⟩
    · by_cases hsocks : endpoint.socks = [] <;> simp [apply, hsplit, hsocks, assigned]
    · by_cases hsocks : endpoint.socks = [] <;> simp [apply, hsplit, hsocks, assigned]
    · by_cases hsocks : endpoint.socks = [] <;> simp [apply, hsplit, hsocks, hdefault, assigned]
    · simp [apply, hsplit, hsocks, assigned]
  · rintro ⟨htype, hhttp, hhttps, hsocks⟩ key value hvalue
    by_cases hnone : endpoint.socks = [] <;> cases key <;>
      simp [apply, hsplit, hnone, hdefault, assigned] at hvalue <;> simp_all

theorem asApplied_windows_iff : AsApplied .windows endpoint settings ↔
    settings .winProxyEnable = ['1'] ∧ settings .winProxyServer = server endpoint ∧
      settings .winAutoConfigURL = [] := by
  constructor
  · intro h
    refine ⟨h .winProxyEnable _ ?_, h .winProxyServer _ ?_, h .winAutoConfigURL _ ?_⟩ <;>
      simp [apply, assigned]
  · rintro ⟨henable, hserver, hurl⟩ key value hvalue
    cases key <;> simp [apply, assigned] at hvalue <;> simp_all

theorem matched_gnome_iff (hpaired : endpoint.https = endpoint.http)
    (hsplit : splitEndpoint endpoint.http = some (host, port)) :
    matched .gnome settings endpoint = true ↔ settings .gnomeMode = "manual".toList ∧
      settings .gnomeHTTPHost = host ∧ settings .gnomeHTTPSHost = host ∧
      settings .gnomeAutoconfigURL = [] := by
  simp only [matched, matchesEndpoint, httpsOrDefault_eq hpaired, hsplit, decide_eq_true_eq, and_true]
  rfl

theorem asApplied_applied (settings : Settings)
    (hbackend : backend ≠ .unsupported) (hvalid : endpoint.valid = true) :
    AsApplied backend endpoint (applied backend endpoint settings) := by
  intro key value hvalue
  rw [applied_eq hbackend hvalid, hvalue]
  rfl

/-- `Matches` tells whether all is as applied, where what it does not look at is. -/
theorem matched_iff_of_comparable (hbackend : backend ≠ .unsupported)
    (hvalid : endpoint.valid = true) (hpaired : endpoint.https = endpoint.http)
    (h : Comparable endpoint settings backend) :
    matched backend settings endpoint = true ↔ AsApplied backend endpoint settings := by
  obtain ⟨host, port, hsplit, -, -⟩ := splitEndpoint_of_valid hvalid
  cases backend with
  | gnome =>
    obtain ⟨hurl, hports⟩ := h
    rw [matched_gnome_iff hpaired hsplit, asApplied_gnome_iff hpaired hsplit]
    simp only [hurl, hports host port hsplit, and_true]
  | kde =>
    obtain ⟨hsocks, hplain⟩ := h
    have htype : get settings .kdeProxyType = settings .kdeProxyType := hplain _ (by simp)
    have hhttp : get settings .kdeHTTPProxy = settings .kdeHTTPProxy := hplain _ (by simp)
    have hhttps : get settings .kdeHTTPSProxy = settings .kdeHTTPSProxy := hplain _ (by simp)
    have hmatched : matched .kde settings endpoint = true ↔ get settings .kdeProxyType = ['1'] ∧
        get settings .kdeHTTPProxy = endpoint.http ∧ get settings .kdeHTTPSProxy = endpoint.http := by
      simp only [matched, matchesEndpoint, httpsOrDefault_eq hpaired, decide_eq_true_eq]
      rfl
    rw [hmatched, asApplied_kde_iff hpaired hsplit, htype, hhttp, hhttps]
    exact ⟨fun hall => ⟨hall.1, hall.2.1, hall.2.2, hsocks⟩, fun hall => ⟨hall.1, hall.2.1, hall.2.2.1⟩⟩
  | windows =>
    have henable : get settings .winProxyEnable = ['1'] ↔ settings .winProxyEnable = ['1'] := by
      show number (settings .winProxyEnable) = ['1'] ↔ _
      unfold number
      split <;> simp_all
    have hmatched : matched .windows settings endpoint = true ↔
        get settings .winProxyEnable = ['1'] ∧ settings .winProxyServer = server endpoint ∧
          settings .winAutoConfigURL = [] := by
      simp only [matched, matchesEndpoint, decide_eq_true_eq]
      rfl
    rw [hmatched, henable, asApplied_windows_iff]
  | unsupported => exact absurd rfl hbackend

/-- Right after `Apply` only an autoconfiguration URL keeps `Matches` from answering yes. -/
theorem matched_applied_iff {before : Settings} (hbackend : backend ≠ .unsupported)
    (hvalid : endpoint.valid = true) (hpaired : endpoint.https = endpoint.http) :
    matched backend (applied backend endpoint before) endpoint = true ↔ NoAutoconfig before backend := by
  obtain ⟨host, port, hsplit, -, htrim⟩ := splitEndpoint_of_valid hvalid
  have happlied := @asApplied_applied backend endpoint before hbackend hvalid
  cases backend with
  | gnome =>
    obtain ⟨hmode, hhttp, hhttps, -, -⟩ := (asApplied_gnome_iff hpaired hsplit).1 happlied
    -- `Apply` leaves the URL alone
    have hurl : applied .gnome endpoint before .gnomeAutoconfigURL = before .gnomeAutoconfigURL := by
      rw [applied_eq hbackend hvalid]
      simp [apply, hsplit, assigned]
    rw [matched_gnome_iff hpaired hsplit]
    simp [hmode, hhttp, hhttps, hurl, NoAutoconfig]
  | kde =>
    obtain ⟨htype, hhttp, hhttps, hsocks⟩ := (asApplied_kde_iff hpaired hsplit).1 happlied
    refine iff_of_true ((matched_iff_of_comparable hbackend hvalid hpaired ⟨hsocks, ?_⟩).2 happlied)
      (by simp [NoAutoconfig])
    simp only [List.forall_mem_cons, List.not_mem_nil, false_implies, implies_true, and_true, htype,
      hhttp, hhttps, htrim]
    decide
  | windows =>
    exact iff_of_true ((matched_iff_of_comparable hbackend hvalid hpaired trivial).2 happlied)
      (by simp [NoAutoconfig])
  | unsupported => exact absurd rfl hbackend

end Compare

/-- **What `Matches` recognises.** For each desktop and every endpoint that `Runtime` builds of valid
    addresses: at all settings where GNOME has no autoconfiguration URL and its ports are those of the
    endpoint, KDE's entry for SOCKS is that of the endpoint if it has one and there is no white space
    around the others, `Matches` answers yes exactly if every setting that `Apply` has written or
    cleared still has its value. Right after `Apply` from any settings the answer is yes exactly if
    there is no autoconfiguration URL on GNOME. -/
theorem matched_iff_asApplied
    (hbackend : backend ≠ .unsupported) (hvalid : endpoint.valid = true)
    (hpaired : endpoint.https = endpoint.http) :
    (∀ settings, Comparable endpoint settings backend →
      (matched backend settings endpoint = true ↔ AsApplied backend endpoint settings)) ∧
    ∀ before, matched backend (applied backend endpoint before) endpoint = true ↔
      NoAutoconfig before backend :=
  ⟨fun _ h => matched_iff_of_comparable hbackend hvalid hpaired h,
    fun _ => matched_applied_iff hbackend hvalid hpaired⟩

/-- The user changes a setting of KDE after `Apply`. -/
def kdeChanged (key : Key) (value : String) : Settings :=
  Function.update (applied .kde localEndpoint ownProxy) key value.toList

/-- Another HTTP proxy. -/
def changedHTTP : Settings := kdeChanged .kdeHTTPProxy "proxy.corp:8080"

/-- `Apply` is recognised on KDE, and so is a change of what `Matches` looks at. -/
theorem changedHTTP_matched_iff :
    matched .kde (applied .kde localEndpoint ownProxy) localEndpoint = true ∧
      matched .kde changedHTTP localEndpoint = false ∧
      (matched .kde changedHTTP localEndpoint = true ↔ AsApplied .kde localEndpoint changedHTTP) := by
  have hvalid : localEndpoint.valid = true := by decide +kernel
  have hcomparable : Comparable localEndpoint changedHTTP .kde := by
    unfold Comparable
    decide +kernel
  obtain ⟨hiff, hafter⟩ := @matched_iff_asApplied .kde localEndpoint (by decide) hvalid rfl
  exact ⟨(hafter ownProxy).2 nofun, by decide +kernel, hiff changedHTTP hcomparable⟩

/-- The user sets another port after `Apply`. -/
def changedPort : Settings :=
  Function.update (applied .gnome localEndpoint gnomeDefaults) .gnomeHTTPPort "3128".toList

/-- Another proxy for SOCKS. -/
def changedSOCKS : Settings := kdeChanged .kdeSOCKSProxy "socks://proxy.example 1080"

/-- A blank behind the HTTP proxy. -/
def changedBlank : Settings := kdeChanged .kdeHTTPProxy "127.0.0.1:8118 "

/-- GNOME with the URL of a script is not recognised after `Apply`; the three changes are
    overlooked. -/
theorem matched_overlooks :
    localEndpoint.valid = true ∧ localEndpoint.https = localEndpoint.http ∧
      matched .gnome (applied .gnome localEndpoint
        (Function.update gnomeDefaults .gnomeAutoconfigURL "http://wpad/wpad.dat".toList))
        localEndpoint = false ∧
      ¬ (matched .gnome changedPort localEndpoint = true ↔
        AsApplied .gnome localEndpoint changedPort) ∧
      ∀ settings ∈ [changedSOCKS, changedBlank],
        ¬ (matched .kde settings localEndpoint = true ↔ AsApplied .kde localEndpoint settings) := by
  refine ⟨by decide +kernel, rfl, by decide +kernel, fun h => ?_, fun settings hmem h => ?_⟩
  · have hport := h.1 (by decide +kernel) .gnomeHTTPPort "8118".toList (by decide +kernel)
    revert hport
    decide +kernel
  · simp only [List.mem_cons, List.not_mem_nil, or_false] at hmem
    rcases hmem with rfl | rfl
    · have hsocks := h.1 (by decide +kernel) .kdeSOCKSProxy "127.0.0.1:1080".toList
        (by decide +kernel)
      revert hsocks
      decide +kernel
    · have hhttp := h.1 (by decide +kernel) .kdeHTTPProxy "127.0.0.1:8118".toList
        (by decide +kernel)
      revert hhttp
      decide +kernel

end LnProxy.SystemProxy
