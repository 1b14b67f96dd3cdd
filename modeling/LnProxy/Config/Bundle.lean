import LnProxy.Config.Initialize

set_option autoImplicit false

/-! # Initialised bundles (`lnproxy-init`, `lnproxy-node --init`, `LoadConfig`)

The commands leave verifier, certificate and key in the default data directory, and put the
configuration alone in the one that was asked for. `LoadConfig` then looks for all four in one
directory. -/

namespace LnProxy.Config

open Files UTF8

/-! ## The commands -/

section Functions

variable {Loc : Type} [DecidableEq Loc] (paths : Paths.System Loc) (env : Env) (encoding : Encoding)

/-- `logging.New`, which opens the log of the data directory. -/
def newLogger (dataDir : Bytes) : Task Loc Unit :=
  if dataDir = [] then pure ()
  else do
    let path := paths.join dataDir (ascii "lnproxy.log")
    mkdirAll paths (paths.dir path)
    -- `OpenFile` with `O_CREATE`
    operation (fun s =>
      if s.disk (paths.locate path) = none then s.set (paths.locate path) (some (.file [])) else s)
      fun _ => id
    -- `Stat`
    call

/-- `run` of `lnproxy-init` -/
def runInit (role : Bytes) (opts : Options) (inputs : Inputs) : Task Loc Unit := do
  let cfg ← ofExcept (defaultNode paths env role)
  let cfg ← fillPaths paths env (opts.place cfg)
  initializeNode paths env encoding (opts.override .init cfg) opts.configPath inputs

/-- `run` of `lnproxy-node` with `--init` -/
def runNode (role : Bytes) (opts : Options) (inputs : Inputs) : Task Loc Unit := do
  let cfg ← ofExcept (defaultNode paths env role)
  let cfg ← fillPaths paths env (opts.place cfg)
  newLogger paths (opts.override .node cfg).dataDirectory
  initializeNode paths env encoding (opts.override .node cfg) opts.configPath inputs

def run (command : Command) (role : Bytes) (opts : Options) (inputs : Inputs) : Task Loc Unit :=
  match command with
  | .init => runInit paths env encoding role opts inputs
  | .node => runNode paths env encoding role opts inputs

/-! ## `LoadConfig` -/

/-- One turn of the loop over the required files. -/
def required (name : String) (path : Bytes) : Task Loc Unit := do
  match ← attempt (stat paths path) with
  | .error failure =>
    fail (.error (name ++ " " ++ shown path ++ " is required: " ++ describe failure))
  | .ok .directory => fail (.error (name ++ " " ++ shown path ++ " is a directory"))
  | .ok (.file _) => pure ()

/-- The role and the paths that `LoadConfig` forces. -/
def Node.moved (n : Node) (dataDir : Bytes) : Node :=
  { n with
    role := roleServerExit
    console := false
    dataDirectory := dataDir
    certificateFile := certificateIn paths dataDir
    keyFile := keyIn paths dataDir
    verifierFile := verifierIn paths dataDir }

def loadConfig (dataDir : Bytes) : Task Loc Node :=
  if dataDir = [] then fail (.error "data directory is required")
  else do
    let cfg ← wrapping ("load " ++ shown (configIn paths dataDir) ++ ": ")
      (loadNode paths env encoding.json (configIn paths dataDir))
    let cfg := cfg.moved paths dataDir
    ofExcept cfg.validate
    required paths "passphrase verifier" cfg.verifierFile
    required paths "TLS certificate" cfg.certificateFile
    required paths "TLS private key" cfg.keyFile
    pure cfg

/-- The file is in the directory. -/
def LiesIn (dataDir path : Bytes) : Prop :=
  ∃ name, paths.locate path = paths.child (paths.locate dataDir) name

/-- `LoadConfig` succeeds, and what it returns agrees with the configuration. -/
def LoadsAs (cfg : Node) (dataDir : Bytes) (s : State Unit Loc Entry) : Prop :=
  ∃ cfg' s', Done (loadConfig paths env encoding dataDir) s cfg' s' ∧
    cfg'.listenAddress = cfg.listenAddress ∧ cfg'.connectionLimit = cfg.connectionLimit ∧
    cfg'.idleTimeout = cfg.idleTimeout ∧ cfg'.capacity = cfg.capacity ∧
    cfg'.exitName = cfg.exitName ∧ cfg'.exitID = cfg.exitID

end Functions

section Runs

variable {Loc : Type} [DecidableEq Loc] {paths : Paths.System Loc} {env env' : Env}
  {encoding : Encoding} {command : Command} {role dataDir : Bytes} {opts : Options} {inputs : Inputs}
  {cfg : Node} {s : State Unit Loc Entry} {m m' : Machine Unit Loc Entry String}

omit [DecidableEq Loc] in
theorem of_ofExcept_ok {α : Type} {value : Except String α} {a : α}
    {m m' : Machine Unit Loc Entry String} (h : (ofExcept value : Task Loc α) m = .ok a m') :
    value = .ok a := by
  cases value with
  | error text => cases h
  | ok b =>
    injection h with hvalue _
    rw [hvalue]

theorem of_fillPaths_ok {n n' : Node} (h : fillPaths paths env n m = .ok n' m') :
    n' = n.filled paths env := by
  obtain ⟨_, _, _, hpure⟩ := of_bind_ok h
  injection hpure with hvalue _
  exact hvalue.symm

/-- A command that succeeds has initialised its configuration. -/
theorem of_run_ok (h : run paths env encoding command role opts inputs m = .ok () m') :
    ∃ cfg m₁, configured paths env command role opts = .ok cfg ∧
      initializeNode paths env encoding cfg opts.configPath inputs m₁ = .ok () m' := by
  have hconfigured : ∀ {start cfg : Node}, defaultNode paths env role = .ok start →
      cfg = (opts.place start).filled paths env →
      configured paths env command role opts = .ok (opts.override command cfg) := by
    intro start cfg hstart hcfg
    unfold configured
    rw [hstart, hcfg]
    rfl
  cases command with
  | init =>
    obtain ⟨start, m₁, hdefault, h⟩ := of_bind_ok h
    obtain ⟨cfg, m₂, hfill, h⟩ := of_bind_ok h
    exact ⟨_, m₂, hconfigured (of_ofExcept_ok hdefault) (of_fillPaths_ok hfill), h⟩
  | node =>
    obtain ⟨start, m₁, hdefault, h⟩ := of_bind_ok h
    obtain ⟨cfg, m₂, hfill, h⟩ := of_bind_ok h
    obtain ⟨_, m₃, _, h⟩ := of_bind_ok h
    exact ⟨_, m₃, hconfigured (of_ofExcept_ok hdefault) (of_fillPaths_ok hfill), h⟩

/-! ## Loading it -/

omit [DecidableEq Loc] in
theorem done_required {path data : Bytes} (name : String)
    (h : s.disk (paths.locate path) = some (.file data)) :
    Done (required paths name path) s () s := bind_ok (attempt_ok (needs_readFile h).done)

/-- A configuration that is full is read as it was written, with its strings made text. -/
theorem done_loadNode {json : NodeJSON} {path : Bytes} {n : Node}
    (h : s.disk (paths.locate path) = some (.file (json.marshalIndent n ++ [10]))) (hfull : n.Full)
    (hvalid : n.coerced.validate = .ok ()) :
    ∃ s', Done (loadNode paths env json path) s n.coerced s' ∧
      ∀ place entry, s.disk place = some entry → s'.disk place = some entry := by
  have hread : Done (readData paths path : Task Loc Bytes) s (json.marshalIndent n ++ [10]) s :=
    bind_ok (needs_readFile h).done
  have hparse : Done (wrapping "parse node config: "
      (ofExcept (json.unmarshal (json.marshalIndent n ++ [10]))) : Task Loc Node) s n.coerced s := by
    rw [json.unmarshal_marshalIndent]
    exact (needs_pure _ s).done.handle _
  -- the state after `FillPaths` has made the data directory
  let made := s.create (paths.ancestors (paths.locate (n.coerced.filled paths env).dataDirectory))
  have hmkdir : Done (mkdirAll paths (n.coerced.filled paths env).dataDirectory : Task Loc Unit) s ()
      made := (needs_operation _ _ s).done
  have hfill : Done (fillPaths paths env n.coerced) s n.coerced made := by
    refine (hmkdir.handle _).bind ?_
    rw [filled_of_full hfull.coerced]
    exact (needs_pure _ _).done
  have hcheck : Done (ofExcept n.coerced.validate : Task Loc Unit) made () made := by
    rw [hvalid]
    exact (needs_pure _ _).done
  refine ⟨made, hread.bind (hparse.bind (hfill.bind (hcheck.bind (needs_pure _ _).done))), ?_⟩
  exact fun place entry hentry => create_disk hentry fun hnone => absurd hnone (Option.some_ne_none _)

theorem coerced_of_valid {text : Bytes} (h : UTF8.Valid text) : coerced text = text :=
  UTF8.encode_coerce_iff.2 h

/-- **A complete bundle in one directory is loaded.** -/
theorem done_loadConfig (h : Configured paths opts dataDir cfg) (hrole : cfg.role = roleServerExit)
    (hdir : opts.dataDir ≠ []) (hsame : paths.locate opts.dataDir = paths.locate dataDir)
    (hcomplete : Complete paths env encoding cfg [] inputs s) :
    ∃ s', Done (loadConfig paths env' encoding opts.dataDir) s
      (cfg.coerced.moved paths opts.dataDir) s' := by
  have hexit : cfg.role ≠ roleExit := by
    rw [hrole]
    decide
  have hplaces : ∀ name, Paths.Plain name →
      paths.locate (paths.join opts.dataDir name) = paths.locate (paths.join dataDir name) := by
    intro name hname
    rw [paths.locate_join _ _ hname, paths.locate_join _ _ hname, hsame]
  have hcoerced : cfg.coerced.role = roleServerExit := by
    show coerced cfg.role = roleServerExit
    rw [hrole]
    exact coerced_of_valid (UTF8.valid_of_ascii (by decide +kernel))
  have hfull := h.full.coerced
  have hconfig : s.disk (paths.locate (configIn paths opts.dataDir)) =
      some (.file (encoding.json.marshalIndent cfg ++ [10])) := by
    have hfile := hcomplete.config
    unfold configFile at hfile
    rwa [if_pos rfl, h.data, if_pos hdir, filled_of_full h.full] at hfile
  obtain ⟨s', hload, hkept⟩ := @done_loadNode _ _ paths env' s _ _ cfg hconfig h.full
    ((validate_serverExit hcoerced).2 ⟨hfull.data, h.limit, h.idle, h.capacity, hfull.listen⟩)
  have hmoved : (cfg.coerced.moved paths opts.dataDir).validate = .ok () :=
    (validate_serverExit rfl).2 ⟨hdir, h.limit, h.idle, h.capacity, hfull.listen⟩
  have hcheck : Done (ofExcept (cfg.coerced.moved paths opts.dataDir).validate : Task Loc Unit) s'
      () s' := by
    rw [hmoved]
    exact (needs_pure _ _).done
  obtain ⟨_, _, hverifier⟩ := hcomplete.verifier
  have hcertificate := hcomplete.certificate hexit
  have hkey := hcomplete.key hexit
  rw [h.verifier, verifierIn, ← hplaces _ (by decide)] at hverifier
  rw [h.certificate, certificateIn, ← hplaces _ (by decide)] at hcertificate
  rw [h.key, keyIn, ← hplaces _ (by decide)] at hkey
  refine ⟨s', ?_⟩
  unfold loadConfig
  rw [if_neg hdir]
  exact (hload.handle _).bind (hcheck.bind
    ((done_required "passphrase verifier" (hkept _ _ hverifier)).bind
      ((done_required "TLS certificate" (hkept _ _ hcertificate)).bind
        ((done_required "TLS private key" (hkept _ _ hkey)).bind (needs_pure _ _).done))))

/-- **Which bundles can be loaded.** Let one of the commands succeed for the role `server-exit`, with
    any flags but `--config`. Its files are all in the directory of `--data-dir`, and `LoadConfig` of
    it gives the same configuration, exactly if that is the default data directory by another path
    and the listen address, the exit name and the exit ID are text. Verifier, certificate and key of
    any two bundles are the same files, whatever their data directories. -/
theorem bundle_loads_iff (hconfig : opts.configPath = [])
    (hrun : run paths env encoding command roleServerExit opts inputs m = .ok () m') :
    ∃ cfg dataDir, configured paths env command roleServerExit opts = .ok cfg ∧
      defaultDataDir paths env = .ok dataDir ∧
      ((∀ path ∈ bundle paths cfg [], LiesIn paths opts.dataDir path) ∧
          LoadsAs paths env' encoding cfg opts.dataDir m'.toState ↔
        opts.dataDir ≠ [] ∧ paths.locate opts.dataDir = paths.locate dataDir ∧
          UTF8.Valid cfg.listenAddress ∧ UTF8.Valid cfg.exitName ∧ UTF8.Valid cfg.exitID) ∧
      ∀ command' role' opts' cfg', configured paths env command' role' opts' = .ok cfg' →
        cfg'.verifierFile = cfg.verifierFile ∧ cfg'.certificateFile = cfg.certificateFile ∧
          cfg'.keyFile = cfg.keyFile := by
  obtain ⟨cfg, m₁, hcfg, hinit⟩ := of_run_ok hrun
  rw [hconfig] at hinit
  obtain ⟨hrole, dataDir, hdir, h⟩ := configured_spec hcfg
  refine ⟨cfg, dataDir, hcfg, hdir, ⟨?_, ?_⟩, ?_⟩
  · rintro ⟨hlies, cfg', s', hdone, hlisten, _, _, _, hname, hid⟩
    have hnonempty : opts.dataDir ≠ [] := by
      intro hnil
      unfold loadConfig at hdone
      rw [if_pos hnil] at hdone
      cases hdone
    have hsame : paths.locate opts.dataDir = paths.locate dataDir := by
      obtain ⟨name, hname⟩ := hlies cfg.verifierFile List.mem_cons_self
      rw [h.verifier, verifierIn, paths.locate_join _ _ (by decide)] at hname
      exact (paths.child_inj _ _ _ _ hname).1.symm
    have hcomplete := Triple.of_ok (ensures_initializeNode h.distinct) trivial hinit
    obtain ⟨s'', hdone'⟩ := @done_loadConfig _ _ paths env env' encoding dataDir opts inputs cfg _ h
      hrole hnonempty hsame hcomplete
    -- what `LoadConfig` returns is determined
    obtain rfl : cfg' = cfg.coerced.moved paths opts.dataDir := by
      have hresult := hdone.symm.trans hdone'
      injection hresult
    exact ⟨hnonempty, hsame, UTF8.encode_coerce_iff.1 hlisten, UTF8.encode_coerce_iff.1 hname,
      UTF8.encode_coerce_iff.1 hid⟩
  · rintro ⟨hnonempty, hsame, hlisten, hname, hid⟩
    have hcomplete := Triple.of_ok (ensures_initializeNode h.distinct) trivial hinit
    obtain ⟨s', hdone⟩ := @done_loadConfig _ _ paths env env' encoding dataDir opts inputs cfg _ h
      hrole hnonempty hsame hcomplete
    refine ⟨fun path hpath => ?_, _, s', hdone, coerced_of_valid hlisten, rfl, rfl, rfl,
      coerced_of_valid hname, coerced_of_valid hid⟩
    obtain ⟨file, hfile, rfl⟩ := List.mem_map.1 (h.bundle_sublist.subset hpath)
    have hplace : paths.locate file.1 = paths.locate opts.dataDir := by
      have hdirs := (List.of_mem_zip hfile).1
      rw [h.data, if_pos hnonempty] at hdirs
      simp only [List.mem_cons, List.not_mem_nil, or_false, or_self_left] at hdirs
      rcases hdirs with heq | heq
      · rw [heq, hsame]
      · rw [heq]
    exact ⟨file.2, by rw [paths.locate_join _ _ (plain_of_mem_files hfile).1, hplace]⟩
  · intro command' role' opts' cfg' hcfg'
    obtain ⟨_, dataDir', hdir', h'⟩ := configured_spec hcfg'
    obtain rfl : dataDir' = dataDir := Except.ok.inj (hdir'.symm.trans hdir)
    exact ⟨h'.verifier.trans h.verifier.symm, h'.certificate.trans h.certificate.symm,
      h'.key.trans h.key.symm⟩

end Runs

/-! ## Two directories -/

def emptyTree : Machine Unit (List Bytes) Entry String := ⟨⟨(), fun _ => none⟩, []⟩

/-- The default data directory is `/h/lnproxy`, which may be given by another path. -/
theorem default_by_another_path :
    ∃ m', run samplePaths sampleEnv sampleEncoding .node roleServerExit
        (sampleOptions (ascii "/h/./lnproxy")) sampleInputs emptyTree = .ok () m' ∧
      ∃ cfg, LoadsAs samplePaths sampleEnv sampleEncoding cfg (ascii "/h/./lnproxy") m'.toState := by
  obtain ⟨m', hrun⟩ : ∃ m', run samplePaths sampleEnv sampleEncoding .node roleServerExit
      (sampleOptions (ascii "/h/./lnproxy")) sampleInputs emptyTree = .ok () m' := ⟨_, rfl⟩
  obtain ⟨cfg, dataDir, hcfg, hdir, hiff, _⟩ :=
    @bundle_loads_iff _ _ samplePaths sampleEnv sampleEnv sampleEncoding .node _ sampleInputs
      emptyTree m' rfl hrun
  have hlisten : (configured samplePaths sampleEnv .node roleServerExit
      (sampleOptions (ascii "/h/./lnproxy"))).map Node.listenAddress = .ok (ascii ":443") := rfl
  have hname : (configured samplePaths sampleEnv .node roleServerExit
      (sampleOptions (ascii "/h/./lnproxy"))).map Node.exitName = .ok (ascii "host") := rfl
  have hid : (configured samplePaths sampleEnv .node roleServerExit
      (sampleOptions (ascii "/h/./lnproxy"))).map Node.exitID = .ok (ascii "host") := rfl
  rw [hcfg] at hlisten hname hid
  have hhost : UTF8.Valid (ascii "host") := UTF8.valid_of_ascii (by decide +kernel)
  refine ⟨m', hrun, cfg, (hiff.2 ⟨by decide, ?_, ?_, ?_, ?_⟩).2⟩
  · rw [← Except.ok.inj (show Except.ok (ascii "/h/lnproxy") = Except.ok dataDir from hdir)]
    decide +kernel
  · rw [show cfg.listenAddress = ascii ":443" from Except.ok.inj hlisten]
    exact UTF8.valid_of_ascii (by decide +kernel)
  · rw [show cfg.exitName = ascii "host" from Except.ok.inj hname]
    exact hhost
  · rw [show cfg.exitID = ascii "host" from Except.ok.inj hid]
    exact hhost

/-- Any other directory gets the configuration alone, and cannot be loaded. -/
theorem other_directory :
    ∃ m', run samplePaths sampleEnv sampleEncoding .init roleServerExit (sampleOptions (ascii "/d"))
        sampleInputs emptyTree = .ok () m' ∧
      m'.disk (samplePaths.locate (ascii "/h/lnproxy/passphrase.json")) ≠ none ∧
      m'.disk (samplePaths.locate (ascii "/d/passphrase.json")) = none ∧
      m'.disk (samplePaths.locate (ascii "/d/node.json")) ≠ none ∧
      ∃ m'', loadConfig samplePaths sampleEnv sampleEncoding (ascii "/d") ⟨m'.toState, []⟩ =
        .error (.failed (.error ("passphrase verifier /d/passphrase.json is required: " ++
          "no such file or directory"))) m'' :=
  ⟨_, rfl, nofun, rfl, nofun, _, rfl⟩

end LnProxy.Config
