import LnProxy.Config.Node

set_option autoImplicit false

/-! # The configurations the commands initialise (`lnproxy-init`, `lnproxy-node --init`)

Both commands begin with `DefaultNode`, whose paths are in the default data directory, and put the
directory of `--data-dir` over it. `FillPaths` only fills paths that are empty, so it does not move
the others: verifier, certificate and key stay in the default directory. -/

namespace LnProxy.Config

open Files UTF8

/-! ## The flags -/

/-- The flags. `lnproxy-init` has all but `--console`. -/
structure Options where
  configPath : Bytes
  dataDir : Bytes
  listen : Bytes
  serverAddress : Bytes
  fingerprint : Bytes
  passphraseSrc : Bytes
  console : Bool
  capacity : Int
  idleTimeout : Int
  deriving DecidableEq, Repr

inductive Command where
  /-- `lnproxy-init` -/
  | init
  /-- `lnproxy-node --init` -/
  | node
  deriving DecidableEq, Repr

namespace Options

/-- The data directory of the flags, before `FillPaths`. -/
def place (opts : Options) (cfg : Node) : Node :=
  if opts.dataDir ≠ [] then { cfg with dataDirectory := opts.dataDir } else cfg

/-- The other flags, after it. -/
def override (opts : Options) (command : Command) (cfg : Node) : Node :=
  { cfg with
    listenAddress := if opts.listen ≠ [] then opts.listen else cfg.listenAddress
    serverAddress := if opts.serverAddress ≠ [] then opts.serverAddress else cfg.serverAddress
    serverFingerprint := if opts.fingerprint ≠ [] then opts.fingerprint else cfg.serverFingerprint
    passphraseSource := if opts.passphraseSrc ≠ [] then opts.passphraseSrc else cfg.passphraseSource
    console := if command = .node ∧ opts.console = true then true else cfg.console
    capacity := if 0 < opts.capacity then opts.capacity else cfg.capacity
    idleTimeout := if 0 < opts.idleTimeout then opts.idleTimeout else cfg.idleTimeout }

end Options

/-- The configuration a command initialises. -/
def configured {Loc : Type} (paths : Paths.System Loc) (env : Env) (command : Command) (role : Bytes)
    (opts : Options) : Except String Node :=
  (defaultNode paths env role).map fun cfg => opts.override command ((opts.place cfg).filled paths env)

/-! ## Configurations that are filled -/

/-- There is nothing for `FillPaths` to fill. -/
structure Node.Full (n : Node) : Prop where
  data : n.dataDirectory ≠ []
  certificate : n.certificateFile ≠ []
  key : n.keyFile ≠ []
  verifier : n.verifierFile ≠ []
  listen : n.listenAddress ≠ []
  limit : n.connectionLimit ≠ 0
  idle : n.idleTimeout ≠ 0
  capacity : n.capacity ≠ 0
  exitID : n.exitID ≠ []
  source : n.passphraseSource ≠ []

section Full

variable {Loc : Type} {paths : Paths.System Loc} {env : Env} {n : Node}

theorem filled_of_full (h : n.Full) : n.filled paths env = n := by
  unfold Node.filled
  simp only [if_neg h.data, if_neg h.certificate, if_neg h.key, if_neg h.verifier, if_neg h.listen,
    if_neg h.limit, if_neg h.idle, if_neg h.capacity, if_neg h.exitID, if_neg h.source]

theorem coerced_ne_nil {text : Bytes} (h : text ≠ []) : coerced text ≠ [] := fun heq =>
  h (UTF8.encode_coerce_eq_nil.1 heq)

theorem Node.Full.coerced (h : n.Full) : n.coerced.Full where
  data := coerced_ne_nil h.data
  certificate := coerced_ne_nil h.certificate
  key := coerced_ne_nil h.key
  verifier := coerced_ne_nil h.verifier
  listen := coerced_ne_nil h.listen
  limit := h.limit
  idle := h.idle
  capacity := h.capacity
  exitID := coerced_ne_nil h.exitID
  source := coerced_ne_nil h.source

end Full

/-! ## The configuration of a command -/

/-- What is known of the defaults. -/
structure Defaults {Loc : Type} (paths : Paths.System Loc) (dataDir : Bytes) (cfg : Node) : Prop where
  verifier : cfg.verifierFile = verifierIn paths dataDir
  certificate : cfg.certificateFile = certificateIn paths dataDir
  key : cfg.keyFile = keyIn paths dataDir
  data : cfg.dataDirectory = dataDir
  nonempty : dataDir ≠ []
  listen : cfg.listenAddress = defaultListen
  limit : cfg.connectionLimit = 256
  idle : cfg.idleTimeout = defaultIdle
  capacity : cfg.capacity = defaultCapacity
  exitID : cfg.exitID = []
  source : cfg.passphraseSource = ascii "prompt"

/-- What is known of the configuration a command initialises. -/
structure Configured {Loc : Type} (paths : Paths.System Loc) (opts : Options) (dataDir : Bytes)
    (cfg : Node) : Prop where
  verifier : cfg.verifierFile = verifierIn paths dataDir
  certificate : cfg.certificateFile = certificateIn paths dataDir
  key : cfg.keyFile = keyIn paths dataDir
  data : cfg.dataDirectory = if opts.dataDir ≠ [] then opts.dataDir else dataDir
  limit : 0 < cfg.connectionLimit
  idle : 0 < cfg.idleTimeout
  capacity : 0 < cfg.capacity
  full : cfg.Full

section Configured

variable {Loc : Type} {paths : Paths.System Loc} {env : Env} {command : Command}
  {role dataDir : Bytes} {opts : Options} {cfg : Node}

/-- A flag over a default. -/
theorem flag_ne_nil {flag value : Bytes} (h : value ≠ []) :
    (if flag ≠ [] then flag else value) ≠ [] := by
  split
  · assumption
  · exact h

theorem flag_pos {flag value : Int} (h : 0 < value) : 0 < (if 0 < flag then flag else value) := by
  split
  · assumption
  · exact h

theorem defaultNode_spec (h : defaultNode paths env role = .ok cfg) :
    cfg.role = role ∧ ∃ dataDir, defaultDataDir paths env = .ok dataDir ∧ Defaults paths dataDir cfg := by
  unfold defaultNode at h
  cases hdir : defaultDataDir paths env with
  | error text =>
    rw [hdir] at h
    cases h
  | ok dataDir =>
    rw [hdir] at h
    have hne : dataDir ≠ [] := by
      unfold defaultDataDir at hdir
      cases hbase : env.userConfigDir with
      | error text =>
        rw [hbase] at hdir
        cases hdir
      | ok base =>
        rw [hbase] at hdir
        rw [← Except.ok.inj hdir]
        exact paths.join_ne_nil base _ (by decide)
    obtain rfl := Except.ok.inj h
    exact ⟨rfl, dataDir, rfl, rfl, rfl, rfl, rfl, hne, rfl, rfl, rfl, rfl, rfl, rfl⟩

theorem place_eq (opts : Options) (cfg : Node) : opts.place cfg =
    { cfg with dataDirectory := if opts.dataDir ≠ [] then opts.dataDir else cfg.dataDirectory } := by
  unfold Options.place
  split
  · rfl
  · rfl

/-- `FillPaths` moves none of the default paths. -/
theorem Defaults.filled (h : Defaults paths dataDir cfg) : (opts.place cfg).filled paths env =
    { opts.place cfg with exitID := if env.hostname = [] then ascii "exit" else env.hostname } := by
  have hjoin : ∀ name, Paths.Plain (ascii name) → paths.join dataDir (ascii name) ≠ [] :=
    fun name => paths.join_ne_nil dataDir (ascii name)
  have hdata : (if opts.dataDir ≠ [] then opts.dataDir else cfg.dataDirectory) ≠ [] :=
    flag_ne_nil (h.data ▸ h.nonempty)
  have hverifier : cfg.verifierFile ≠ [] := h.verifier ▸ hjoin _ (by decide)
  have hcertificate : cfg.certificateFile ≠ [] := h.certificate ▸ hjoin _ (by decide)
  have hkey : cfg.keyFile ≠ [] := h.key ▸ hjoin _ (by decide)
  have hlisten : cfg.listenAddress ≠ [] := h.listen ▸ by decide
  have hlimit : cfg.connectionLimit ≠ 0 := h.limit ▸ by decide
  have hidle : cfg.idleTimeout ≠ 0 := h.idle ▸ by decide
  have hcapacity : cfg.capacity ≠ 0 := h.capacity ▸ by decide
  have hsource : cfg.passphraseSource ≠ [] := h.source ▸ by decide
  rw [place_eq]
  unfold Node.filled
  simp only [if_neg hdata, if_neg hverifier, if_neg hcertificate, if_neg hkey, if_neg hlisten,
    if_neg hlimit, if_neg hidle, if_neg hcapacity, if_pos h.exitID, if_neg hsource]

theorem configured_spec (h : configured paths env command role opts = .ok cfg) :
    cfg.role = role ∧ ∃ dataDir, defaultDataDir paths env = .ok dataDir ∧
      Configured paths opts dataDir cfg := by
  unfold configured at h
  cases hdefault : defaultNode paths env role with
  | error text =>
    rw [hdefault] at h
    cases h
  | ok start =>
    rw [hdefault] at h
    obtain ⟨hrole, dataDir, hdir, hstart⟩ := defaultNode_spec hdefault
    have hcfg : opts.override command ((opts.place start).filled paths env) = cfg := Except.ok.inj h
    rw [hstart.filled, place_eq] at hcfg
    have hjoin : ∀ name, Paths.Plain (ascii name) → paths.join dataDir (ascii name) ≠ [] :=
      fun name => paths.join_ne_nil dataDir (ascii name)
    have hdata : (if opts.dataDir ≠ [] then opts.dataDir else start.dataDirectory) ≠ [] :=
      flag_ne_nil (hstart.data ▸ hstart.nonempty)
    have hlisten : (if opts.listen ≠ [] then opts.listen else start.listenAddress) ≠ [] :=
      flag_ne_nil (hstart.listen ▸ by decide)
    have hidle : 0 < (if 0 < opts.idleTimeout then opts.idleTimeout else start.idleTimeout) :=
      flag_pos (hstart.idle ▸ by decide)
    have hcapacity : 0 < (if 0 < opts.capacity then opts.capacity else start.capacity) :=
      flag_pos (hstart.capacity ▸ by decide)
    have hsource : (if opts.passphraseSrc ≠ [] then opts.passphraseSrc
        else start.passphraseSource) ≠ [] := flag_ne_nil (hstart.source ▸ by decide)
    have hexitID : (if env.hostname = [] then ascii "exit" else env.hostname) ≠ [] := by
      split
      · decide
      · assumption
    rw [← hcfg]
    refine ⟨hrole, dataDir, hdir, hstart.verifier, hstart.certificate, hstart.key, ?_,
      hstart.limit ▸ by decide, hidle, hcapacity, hdata, hstart.certificate ▸ hjoin _ (by decide),
      hstart.key ▸ hjoin _ (by decide), hstart.verifier ▸ hjoin _ (by decide), hlisten,
      hstart.limit ▸ by decide, Int.ne_of_gt hidle, Int.ne_of_gt hcapacity, hexitID, hsource⟩
    show (if opts.dataDir ≠ [] then opts.dataDir else start.dataDirectory) = _
    rw [hstart.data]

end Configured

end LnProxy.Config
