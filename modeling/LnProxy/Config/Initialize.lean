import LnProxy.Auth.Handshake
import LnProxy.Config.Flags

set_option autoImplicit false

/-! # Making a node bundle (`Initialize`)

A bundle is the verifier of a passphrase, a certificate and its key, and the configuration that names
them. `Initialize` writes them in this order, and does not begin if there is a verifier already. So a
run that fails after it has saved the verifier leaves a directory that no later run completes. -/

namespace LnProxy.Config

open Files UTF8

/-! ## The passphrase and the verifier -/

/-- The terminal at standard input. -/
structure Terminal where
  isTerminal : Bool
  /-- What `term.ReadPassword` reads first, and what it reads then. -/
  first : Except String Bytes
  second : Except String Bytes

def promptPassphrase (terminal : Terminal) (confirm : Bool) : Except String Bytes :=
  if terminal.isTerminal = false then
    .error "standard input is not a terminal; use env: or file: passphrase source"
  else
    match terminal.first with
    | .error text => .error text
    | .ok first =>
      if first = [] then .error "passphrase cannot be empty"
      else if confirm = false then .ok first
      else
        match terminal.second with
        | .error text => .error text
        | .ok second => if first ≠ second then .error "passphrases do not match" else .ok first

/-- What a run of `Initialize` meets besides files. -/
structure Inputs where
  terminal : Terminal
  /-- What `rand.Read` gives. -/
  salt : Bytes
  /-- The certificate for a host name and its key in PEM, for the random numbers of this run. -/
  issue : Bytes → Bytes × Bytes

/-- The verifier, as `verifier.Save` encodes it: `encode` makes JSON of it. -/
structure Encoding where
  crypto : Auth.Crypto
  encode : Auth.Verifier → Bytes
  json : NodeJSON

/-- The verifier of `NewVerifier` -/
def verifierOf (crypto : Auth.Crypto) (passphrase salt : Bytes) : Auth.Verifier :=
  let params := Auth.defaultParameters
  ⟨salt, crypto.idKey passphrase salt params.iterations params.memory params.parallelism Auth.keyLength,
    params⟩

section Functions

variable {Loc : Type} [DecidableEq Loc] (paths : Paths.System Loc) (env : Env) (encoding : Encoding)

def newVerifier (passphrase salt : Bytes) : Task Loc Auth.Verifier := do
  -- `rand.Read`
  call
  pure (verifierOf encoding.crypto passphrase salt)

def writePrivateFile (path data : Bytes) : Task Loc Unit := do
  mkdirAll paths (paths.dir path)
  replaceAt paths temp call path data

/-- `verifier.Save` -/
def saveVerifier (verifier : Auth.Verifier) (path : Bytes) : Task Loc Unit :=
  writePrivateFile paths path (encoding.encode verifier ++ [10])

/-- `Chmod`, whose error counts for nothing on Windows. -/
def chmod : Task Loc Unit := if env.windows then ignoring call else call

/-- `writeFile` of the configuration package -/
def writeConfigFile (path data : Bytes) : Task Loc Unit := replaceAt paths temp (chmod env) path data

def generateCertificate (issue : Bytes → Bytes × Bytes) (certPath keyPath hostname : Bytes) :
    Task Loc Unit := do
  let hostname := if hostname = [] then env.hostname else hostname
  -- `ecdsa.GenerateKey`, `rand.Int`, `x509.CreateCertificate` and `x509.MarshalPKCS8PrivateKey`
  call
  call
  call
  call
  mkdirAll paths (paths.dir certPath)
  mkdirAll paths (paths.dir keyPath)
  writeConfigFile paths env certPath (issue hostname).1
  writeConfigFile paths env keyPath (issue hostname).2

/-- The test for a verifier that is there already; an error of `Stat` means that there is none. -/
def refuseExisting (path : Bytes) : Task Loc Unit := do
  match ← attempt (stat paths path) with
  | .ok _ => fail (.error (shown path ++ " already exists; refusing to overwrite"))
  | .error _ => pure ()

/-- `Initialize` up to the verifier. -/
def createVerifier (cfg : Node) (inputs : Inputs) : Task Loc Unit := do
  mkdirAll paths cfg.dataDirectory
  refuseExisting paths cfg.verifierFile
  let passphrase ← ofExcept (promptPassphrase inputs.terminal true)
  let verifier ← newVerifier encoding passphrase inputs.salt
  saveVerifier paths encoding verifier cfg.verifierFile

/-- The path of the configuration. -/
def configFile (cfg : Node) (configPath : Bytes) : Bytes :=
  if configPath = [] then configIn paths cfg.dataDirectory else configPath

/-- An exit needs no certificate. -/
def createCertificate (cfg : Node) (inputs : Inputs) : Task Loc Unit :=
  if cfg.role ≠ roleExit then
    generateCertificate paths env inputs.issue cfg.certificateFile cfg.keyFile []
  else pure ()

/-- `Initialize` from the certificate on. -/
def createRest (cfg : Node) (configPath : Bytes) (inputs : Inputs) : Task Loc Unit := do
  createCertificate paths env cfg inputs
  saveNode paths env encoding.json (configFile paths cfg configPath) cfg

/-- `Initialize` -/
def initializeNode (cfg : Node) (configPath : Bytes) (inputs : Inputs) : Task Loc Unit := do
  createVerifier paths encoding cfg inputs
  createRest paths env encoding cfg configPath inputs

/-! ## What a run leaves -/

/-- The files of the bundle. -/
def bundle (cfg : Node) (configPath : Bytes) : List Bytes :=
  cfg.verifierFile :: ((if cfg.role = roleExit then [] else [cfg.certificateFile, cfg.keyFile]) ++
    [configFile paths cfg configPath])

/-- The files of the bundle are different ones, and none of them is the temporary file of one. -/
structure Distinct (cfg : Node) (configPath : Bytes) : Prop where
  files : ((bundle paths cfg configPath).map paths.locate).Nodup
  temps : ∀ path ∈ bundle paths cfg configPath, ∀ path' ∈ bundle paths cfg configPath,
    paths.locate path ≠ paths.locate (path' ++ temp)

/-- Moreover the verifier is not one of the directories. -/
structure Apart (cfg : Node) (configPath : Bytes) : Prop extends Distinct paths cfg configPath where
  outside : paths.locate cfg.verifierFile ∉ paths.ancestors (paths.locate cfg.dataDirectory)
  below : paths.locate cfg.verifierFile ∉ paths.ancestors (paths.locate (paths.dir cfg.verifierFile))

/-- All files of the bundle are there, with what belongs in them. -/
structure Complete (cfg : Node) (configPath : Bytes) (inputs : Inputs) (s : State Unit Loc Entry) :
    Prop where
  verifier : ∃ passphrase, promptPassphrase inputs.terminal true = .ok passphrase ∧
    s.disk (paths.locate cfg.verifierFile) =
      some (.file (encoding.encode (verifierOf encoding.crypto passphrase inputs.salt) ++ [10]))
  certificate : cfg.role ≠ roleExit →
    s.disk (paths.locate cfg.certificateFile) = some (.file (inputs.issue env.hostname).1)
  key : cfg.role ≠ roleExit →
    s.disk (paths.locate cfg.keyFile) = some (.file (inputs.issue env.hostname).2)
  config : s.disk (paths.locate (configFile paths cfg configPath)) =
    some (.file (encoding.json.marshalIndent (cfg.filled paths env) ++ [10]))

end Functions

section Parts

variable {Loc : Type} {paths : Paths.System Loc} {env : Env} {cfg : Node}
  {configPath dataDir : Bytes} {opts : Options}

/-! ## The bundles of the commands -/

def names : List Bytes :=
  [ascii "passphrase.json", ascii "server.crt", ascii "server.key", ascii "node.json"]

/-- The files of a bundle, each with its directory. -/
def files (dataDir configDir : Bytes) : List (Bytes × Bytes) :=
  [dataDir, dataDir, dataDir, configDir].zip names

theorem Configured.bundle_sublist (h : Configured paths opts dataDir cfg) :
    (bundle paths cfg []).Sublist
      ((files dataDir cfg.dataDirectory).map fun file => paths.join file.1 file.2) := by
  unfold bundle configFile
  rw [if_pos rfl, h.verifier, h.certificate, h.key]
  by_cases hrole : cfg.role = roleExit
  · rw [if_pos hrole]
    exact .cons_cons _ (.cons _ (.cons _ (List.Sublist.refl _)))
  · rw [if_neg hrole]
    exact List.Sublist.refl _

theorem plain_of_mem_files {configDir : Bytes} {file : Bytes × Bytes}
    (h : file ∈ files dataDir configDir) :
    Paths.Plain file.2 ∧ Paths.Plain (file.2 ++ temp) ∧
      ∀ file' ∈ files dataDir configDir, file.2 ≠ file'.2 ++ temp := by
  have hnames : ∀ name ∈ names, Paths.Plain name ∧ Paths.Plain (name ++ temp) ∧
      ∀ name' ∈ names, name ≠ name' ++ temp := by decide
  obtain ⟨hplain, htemp, hne⟩ := hnames file.2 (List.of_mem_zip h).2
  exact ⟨hplain, htemp, fun file' h' => hne _ (List.of_mem_zip h').2⟩

/-- The files of a command without `--config` do not fall together, whatever the directories. -/
theorem Configured.distinct (h : Configured paths opts dataDir cfg) : Distinct paths cfg [] where
  files := by
    refine (h.bundle_sublist.map paths.locate).nodup ?_
    have hnames : ((files dataDir cfg.dataDirectory).map Prod.snd).Nodup := (by decide : names.Nodup)
    rw [List.map_map]
    refine List.pairwise_map.2 ((List.pairwise_map.1 hnames).imp_of_mem fun hfile hfile' hne heq => ?_)
    simp only [Function.comp_apply, paths.locate_join _ _ (plain_of_mem_files hfile).1,
      paths.locate_join _ _ (plain_of_mem_files hfile').1] at heq
    exact hne (paths.child_inj _ _ _ _ heq).2
  temps := by
    intro path hpath path' hpath' heq
    obtain ⟨file, hfile, rfl⟩ := List.mem_map.1 (h.bundle_sublist.subset hpath)
    obtain ⟨file', hfile', rfl⟩ := List.mem_map.1 (h.bundle_sublist.subset hpath')
    obtain ⟨hplain, -, hne⟩ := plain_of_mem_files hfile
    obtain ⟨hplain', htemp, -⟩ := plain_of_mem_files hfile'
    rw [paths.join_append _ _ temp hplain' htemp, paths.locate_join _ _ hplain,
      paths.locate_join _ _ htemp] at heq
    exact hne file' hfile' (paths.child_inj _ _ _ _ heq).2

/-- **The bundles of the commands are apart**, on Unix and without `--config`, if the directory of
    `--data-dir` is not below the verifier. -/
theorem Configured.apart {cwd : List Bytes} (h : Configured (Paths.unix cwd) opts dataDir cfg)
    (hdata : opts.dataDir ≠ [] → (Paths.unix cwd).locate cfg.verifierFile ∉
      (Paths.unix cwd).ancestors ((Paths.unix cwd).locate opts.dataDir)) :
    Apart (Paths.unix cwd) cfg [] where
  toDistinct := h.distinct
  outside := by
    rw [h.data]
    by_cases hdir : opts.dataDir ≠ []
    · rw [if_pos hdir]
      exact hdata hdir
    · rw [if_neg hdir, h.verifier, verifierIn, (Paths.unix cwd).locate_join _ _ (by decide)]
      exact Paths.child_not_mem_ancestors _ _ _
  below := by
    have hdir : (Paths.unix cwd).locate ((Paths.unix cwd).dir (verifierIn (Paths.unix cwd) dataDir)) =
        (Paths.unix cwd).locate dataDir := Paths.locate_dir_join cwd dataDir (by decide)
    rw [h.verifier, hdir, verifierIn, (Paths.unix cwd).locate_join _ _ (by decide)]
    exact Paths.child_not_mem_ancestors _ _ _

/-! ## The test for a verifier, and the places -/

theorem quiet_ofExcept {α : Type} (value : Except String α) :
    Quiet (ofExcept value : Task Loc α) := by
  cases value with
  | error text => exact quiet_fail _
  | ok a => exact quiet_pure a

theorem quiet_refuseExisting (path : Bytes) : Quiet (refuseExisting paths path) := by
  refine (quiet_readFile _).attempt.bind fun found => ?_
  cases found with
  | ok _ => exact quiet_fail _
  | error _ => exact quiet_pure ()

theorem quiet_chmod : Quiet (chmod env : Task Loc Unit) := by
  unfold chmod
  split
  · exact quiet_call.ignoring
  · exact quiet_call

theorem done_chmod (s : State Unit Loc Entry) : Done (chmod env : Task Loc Unit) s () s := by
  unfold chmod
  split
  · exact (needs_call s).done.handle _
  · exact (needs_call s).done

/-- Without a verifier the test is passed, whether `Stat` fails or finds nothing. -/
theorem refuseExisting_ok {path : Bytes} {s : State Unit Loc Entry}
    (h : s.disk (paths.locate path) = none) (plan : List (Option (Fault Entry String))) :
    refuseExisting paths path ⟨s, plan⟩ = .ok () ⟨s, plan.tail⟩ := by
  obtain ⟨failure, hstat⟩ := readFile_missing h plan
  have hattempt : attempt (stat paths path : Task Loc Entry) ⟨s, plan⟩ =
      .ok (.error failure) ⟨s, plan.tail⟩ := by
    unfold attempt stat
    rw [hstat]
  exact bind_ok hattempt

theorem refuseExisting_error {path : Bytes} {s : State Unit Loc Entry} {entry : Entry}
    (h : s.disk (paths.locate path) = some entry) : refuseExisting paths path ⟨s, []⟩ =
      .error (.failed (.error (shown path ++ " already exists; refusing to overwrite"))) ⟨s, []⟩ :=
  bind_ok (attempt_ok (needs_readFile h).done)

/-- The places of a bundle with a certificate. -/
theorem Distinct.places (h : Distinct paths cfg configPath) (hrole : cfg.role ≠ roleExit) :
    [paths.locate cfg.verifierFile, paths.locate cfg.certificateFile, paths.locate cfg.keyFile,
      paths.locate (configFile paths cfg configPath)].Nodup := by
  have hfiles := h.files
  unfold bundle at hfiles
  rwa [if_neg hrole] at hfiles

theorem Distinct.temp_ne {path path' : Bytes} (h : Distinct paths cfg configPath)
    (hrole : cfg.role ≠ roleExit)
    (hpath : path ∈ [cfg.verifierFile, cfg.certificateFile, cfg.keyFile, configFile paths cfg configPath])
    (hpath' : path' ∈ [cfg.verifierFile, cfg.certificateFile, cfg.keyFile,
      configFile paths cfg configPath]) : paths.locate path ≠ paths.locate (path' ++ temp) := by
  have htemps := h.temps
  unfold bundle at htemps
  rw [if_neg hrole] at htemps
  exact htemps path hpath path' hpath'

end Parts

section Runs

variable {Loc : Type} [DecidableEq Loc] {paths : Paths.System Loc} {env : Env} {encoding : Encoding}
  {cfg : Node} {configPath : Bytes} {inputs : Inputs} {place : Loc} {found : Option Entry}

theorem ensures_replaceAt {p : Task Loc Unit} (hp : Quiet p) {path : Bytes}
    (htemp : paths.locate path ≠ paths.locate (path ++ temp)) (data : Bytes) :
    Ensures (fun _ => True) (replaceAt paths temp p path data)
      fun _ s => s.disk (paths.locate path) = some (.file data) := by
  intro m _
  exact (triple_replaceAt hp htemp data).ensures m rfl

/-- When it succeeds, the user has given a passphrase, and its verifier is saved. -/
theorem ensures_createVerifier
    (htemp : paths.locate cfg.verifierFile ≠ paths.locate (cfg.verifierFile ++ temp)) :
    Ensures (fun _ => True) (createVerifier paths encoding cfg inputs) fun _ s =>
      ∃ passphrase, promptPassphrase inputs.terminal true = .ok passphrase ∧
        s.disk (paths.locate cfg.verifierFile) =
          some (.file (encoding.encode (verifierOf encoding.crypto passphrase inputs.salt) ++ [10])) := by
  have hprompt : Ensures (fun _ => True)
      (ofExcept (promptPassphrase inputs.terminal true) : Task Loc Bytes)
      fun passphrase _ => promptPassphrase inputs.terminal true = .ok passphrase := by
    cases promptPassphrase inputs.terminal true with
    | error text => exact Triple.fail fun _ _ => trivial
    | ok passphrase => exact Triple.pure fun _ _ => rfl
  refine (ensures_true _).bind fun _ => (ensures_true _).bind fun _ => hprompt.bind fun passphrase => ?_
  have hnew : Ensures (fun _ => promptPassphrase inputs.terminal true = .ok passphrase)
      (newVerifier encoding passphrase inputs.salt : Task Loc Auth.Verifier)
      fun verifier _ => promptPassphrase inputs.terminal true = .ok passphrase ∧
        verifier = verifierOf encoding.crypto passphrase inputs.salt := by
    refine Ensures.bind (quiet_call.triple).ensures fun _ => ?_
    exact Triple.pure fun _ hs => ⟨hs, rfl⟩
  refine hnew.bind fun verifier => ?_
  intro m hm
  obtain ⟨hok, rfl⟩ := hm
  have hsave : Ensures (fun _ => True) (saveVerifier paths encoding
      (verifierOf encoding.crypto passphrase inputs.salt) cfg.verifierFile) _ :=
    (ensures_true _).bind fun _ => ensures_replaceAt quiet_call htemp _
  exact hsave.consequence (fun _ hs => hs) (fun _ s hs => ⟨passphrase, hok, hs⟩) (fun _ _ hs => hs) m
    trivial

/-- When it fails, there is no verifier if there was none. -/
theorem fails_createVerifier (hapart : Apart paths cfg configPath) :
    Triple (fun s => s.disk (paths.locate cfg.verifierFile) = none)
      (createVerifier paths encoding cfg inputs) (fun _ _ => True)
      (Fails fun s => s.disk (paths.locate cfg.verifierFile) = none) := by
  have hmem : cfg.verifierFile ∈ bundle paths cfg configPath := List.mem_cons_self
  have hdata : Leaves (paths.locate cfg.verifierFile) none
      (mkdirAll paths cfg.dataDirectory : Task Loc Unit) := leaves_mkdirAll fun _ => hapart.outside
  have hdir : Leaves (paths.locate cfg.verifierFile) none
      (mkdirAll paths (paths.dir cfg.verifierFile) : Task Loc Unit) :=
    leaves_mkdirAll fun _ => hapart.below
  refine Triple.bind hdata fun _ => .bind (quiet_refuseExisting _).triple fun _ =>
    .bind (quiet_ofExcept _).triple fun passphrase =>
      .bind (quiet_call.bind fun _ => quiet_pure _).triple fun verifier => Triple.bind hdir fun _ => ?_
  exact (triple_replaceAt quiet_call (hapart.temps _ hmem _ hmem) _).consequence (fun _ hs => hs)
    (fun _ _ _ => trivial) fun _ _ hs => hs

/-! ## The rest of the bundle -/

theorem leaves_generateCertificate {issue : Bytes → Bytes × Bytes} {certPath keyPath hostname : Bytes}
    (hfound : found ≠ none)
    (hcert : place ≠ paths.locate certPath) (hcertTemp : place ≠ paths.locate (certPath ++ temp))
    (hkey : place ≠ paths.locate keyPath) (hkeyTemp : place ≠ paths.locate (keyPath ++ temp)) :
    Leaves place found (generateCertificate paths env issue certPath keyPath hostname) := by
  have hmkdir : ∀ path, Leaves place found (mkdirAll paths path : Task Loc Unit) := fun path =>
    leaves_mkdirAll fun hnone => absurd hnone hfound
  exact quiet_call.maintains.bind fun _ => quiet_call.maintains.bind fun _ =>
    quiet_call.maintains.bind fun _ => quiet_call.maintains.bind fun _ => (hmkdir _).bind fun _ =>
      (hmkdir _).bind fun _ => (leaves_replaceAt quiet_chmod hcert hcertTemp _).bind fun _ =>
        leaves_replaceAt quiet_chmod hkey hkeyTemp _

theorem leaves_saveNode {n : Node} {path : Bytes} (hfound : found ≠ none)
    (hpath : place ≠ paths.locate path) (htemp : place ≠ paths.locate (path ++ temp)) :
    Leaves place found (saveNode paths env encoding.json path n) := by
  have hmkdir : ∀ path, Leaves place found (mkdirAll paths path : Task Loc Unit) := fun path =>
    leaves_mkdirAll fun hnone => absurd hnone hfound
  have hfill : Leaves place found (fillPaths paths env n : Task Loc Node) :=
    (hmkdir _).ignoring.bind fun _ => (quiet_pure _).maintains
  exact hfill.bind fun _ => (hmkdir _).bind fun _ => leaves_replaceAt (quiet_pure ()) hpath htemp _

theorem ensures_generateCertificate {issue : Bytes → Bytes × Bytes} {certPath keyPath : Bytes}
    (hcert : paths.locate certPath ≠ paths.locate (certPath ++ temp))
    (hkey : paths.locate keyPath ≠ paths.locate (keyPath ++ temp))
    (hne : paths.locate certPath ≠ paths.locate keyPath)
    (hkeyTemp : paths.locate certPath ≠ paths.locate (keyPath ++ temp)) :
    Ensures (fun _ => True) (generateCertificate paths env issue certPath keyPath []) fun _ s =>
      s.disk (paths.locate certPath) = some (.file (issue env.hostname).1) ∧
        s.disk (paths.locate keyPath) = some (.file (issue env.hostname).2) := by
  have hfirst : Ensures (fun _ => True)
      (writeConfigFile paths env certPath (issue env.hostname).1) _ :=
    ensures_replaceAt quiet_chmod hcert _
  have hkept : Leaves (paths.locate certPath) (some (.file (issue env.hostname).1))
      (writeConfigFile paths env keyPath (issue env.hostname).2) :=
    leaves_replaceAt quiet_chmod hne hkeyTemp _
  have hsecond : Ensures (fun _ => True)
      (writeConfigFile paths env keyPath (issue env.hostname).2) _ :=
    ensures_replaceAt quiet_chmod hkey _
  refine (ensures_true _).bind fun _ => (ensures_true _).bind fun _ => (ensures_true _).bind fun _ =>
    (ensures_true _).bind fun _ => (ensures_true _).bind fun _ => (ensures_true _).bind fun _ =>
      hfirst.bind fun _ => ?_
  exact (Triple.ensures hkept |>.and hsecond).consequence (fun _ hs => ⟨hs, trivial⟩) (fun _ _ hs => hs)
    fun _ _ hs => hs

theorem ensures_saveNode {n : Node} {path : Bytes}
    (htemp : paths.locate path ≠ paths.locate (path ++ temp)) :
    Ensures (fun _ => True) (saveNode paths env encoding.json path n) fun _ s =>
      s.disk (paths.locate path) =
        some (.file (encoding.json.marshalIndent (n.filled paths env) ++ [10])) := by
  have hfill : Ensures (fun _ => True) (fillPaths paths env n : Task Loc Node)
      fun n' _ => n' = n.filled paths env :=
    (ensures_true _).bind fun _ => Triple.pure fun _ _ => rfl
  have hsave : Ensures (fun _ => True) (do
      mkdirAll paths (paths.dir path)
      replaceAt paths temp (pure ()) path
        (encoding.json.marshalIndent (n.filled paths env) ++ [10]) : Task Loc Unit) _ :=
    (ensures_true _).bind fun _ => ensures_replaceAt (quiet_pure ()) htemp _
  refine hfill.bind fun n' m hm => ?_
  subst hm
  exact hsave m trivial

/-- The verifier stays as it is. -/
theorem leaves_createRest (hdistinct : Distinct paths cfg configPath) (hfound : found ≠ none) :
    Leaves (paths.locate cfg.verifierFile) found
      (createRest paths env encoding cfg configPath inputs) := by
  have hsave : Leaves (paths.locate cfg.verifierFile) found
      (saveNode paths env encoding.json (configFile paths cfg configPath) cfg) := by
    refine leaves_saveNode hfound ?_ (hdistinct.temps _ List.mem_cons_self _ (by simp [bundle]))
    have hfiles := hdistinct.files
    unfold bundle at hfiles
    rw [List.map_cons, List.nodup_cons] at hfiles
    exact fun heq => hfiles.1 (heq ▸ List.mem_map_of_mem (by simp))
  have hcreate : Leaves (paths.locate cfg.verifierFile) found
      (createCertificate paths env cfg inputs) := by
    unfold createCertificate
    by_cases hrole : cfg.role ≠ roleExit
    · rw [if_pos hrole]
      have hplaces := hdistinct.places hrole
      refine leaves_generateCertificate hfound ?_ ?_ ?_ ?_
      · exact fun heq => by simp [heq] at hplaces
      · exact hdistinct.temp_ne hrole (by simp) (by simp)
      · exact fun heq => by simp [heq] at hplaces
      · exact hdistinct.temp_ne hrole (by simp) (by simp)
    · rw [if_neg hrole]
      exact (quiet_pure ()).maintains
  exact hcreate.bind fun _ => hsave

theorem ensures_createCertificate (hdistinct : Distinct paths cfg configPath) :
    Ensures (fun _ => True) (createCertificate paths env cfg inputs) fun _ s =>
      cfg.role ≠ roleExit →
        s.disk (paths.locate cfg.certificateFile) = some (.file (inputs.issue env.hostname).1) ∧
          s.disk (paths.locate cfg.keyFile) = some (.file (inputs.issue env.hostname).2) := by
  unfold createCertificate
  by_cases hrole : cfg.role ≠ roleExit
  · rw [if_pos hrole]
    have hplaces := hdistinct.places hrole
    have hgenerate : Ensures (fun _ => True)
        (generateCertificate paths env inputs.issue cfg.certificateFile cfg.keyFile []) _ :=
      ensures_generateCertificate (hdistinct.temp_ne hrole (by simp) (by simp))
        (hdistinct.temp_ne hrole (by simp) (by simp)) (fun heq => by simp [heq] at hplaces)
        (hdistinct.temp_ne hrole (by simp) (by simp))
    exact hgenerate.consequence (fun _ hs => hs) (fun _ _ hs _ => hs) fun _ _ hs => hs
  · rw [if_neg hrole]
    exact Triple.pure fun _ _ h => absurd h hrole

/-- When it succeeds, all is there but for the verifier. -/
theorem ensures_createRest (hdistinct : Distinct paths cfg configPath) :
    Ensures (fun _ => True) (createRest paths env encoding cfg configPath inputs) fun _ s =>
      (cfg.role ≠ roleExit →
        s.disk (paths.locate cfg.certificateFile) = some (.file (inputs.issue env.hostname).1) ∧
          s.disk (paths.locate cfg.keyFile) = some (.file (inputs.issue env.hostname).2)) ∧
      s.disk (paths.locate (configFile paths cfg configPath)) =
        some (.file (encoding.json.marshalIndent (cfg.filled paths env) ++ [10])) := by
  have hmem : configFile paths cfg configPath ∈ bundle paths cfg configPath := by simp [bundle]
  have hsave := @ensures_saveNode _ _ paths env encoding cfg _ (hdistinct.temps _ hmem _ hmem)
  have hkept : ∀ path value, cfg.role ≠ roleExit → path = cfg.certificateFile ∨ path = cfg.keyFile →
      Leaves (paths.locate path) (some value)
        (saveNode paths env encoding.json (configFile paths cfg configPath) cfg) := by
    intro path value hrole hpath
    have hplaces := hdistinct.places hrole
    refine leaves_saveNode nofun ?_ ?_
    · rcases hpath with rfl | rfl
      · exact fun heq => by simp [heq] at hplaces
      · exact fun heq => by simp [heq] at hplaces
    · exact hdistinct.temp_ne hrole (by rcases hpath with rfl | rfl <;> simp) (by simp)
  refine (ensures_createCertificate hdistinct).bind fun _ m hm => ?_
  by_cases hrole : cfg.role ≠ roleExit
  · obtain ⟨hcert, hkey⟩ := hm hrole
    have hcertKept := hkept cfg.certificateFile (.file (inputs.issue env.hostname).1) hrole (.inl rfl)
    have hkeyKept := hkept cfg.keyFile (.file (inputs.issue env.hostname).2) hrole (.inr rfl)
    exact (((Triple.ensures hcertKept).and (Triple.ensures hkeyKept)).and hsave).consequence
      (fun _ hs => hs) (fun _ _ hs => ⟨fun _ => hs.1, hs.2⟩) (fun _ _ hs => hs) m
      ⟨⟨hcert, hkey⟩, trivial⟩
  · exact hsave.consequence (fun _ hs => hs) (fun _ _ hs => ⟨fun h => absurd h hrole, hs⟩)
      (fun _ _ hs => hs) m trivial

/-- **A run that succeeds leaves a complete bundle.** -/
theorem ensures_initializeNode (hdistinct : Distinct paths cfg configPath) :
    Ensures (fun _ => True) (initializeNode paths env encoding cfg configPath inputs)
      fun _ s => Complete paths env encoding cfg configPath inputs s := by
  have hmem : cfg.verifierFile ∈ bundle paths cfg configPath := List.mem_cons_self
  have hverifier := @ensures_createVerifier _ _ paths encoding cfg inputs
    (hdistinct.temps _ hmem _ hmem)
  refine hverifier.bind fun _ m hm => ?_
  obtain ⟨passphrase, hprompt, hdisk⟩ := hm
  have hkept := @leaves_createRest _ _ paths env encoding cfg configPath inputs _ hdistinct
    (Option.some_ne_none (.file (encoding.encode (verifierOf encoding.crypto passphrase inputs.salt) ++
      [10])))
  have hrest := @ensures_createRest _ _ paths env encoding cfg configPath inputs hdistinct
  refine ((Triple.ensures hkept).and hrest).consequence (fun _ hs => hs) (fun _ s hs => ?_)
    (fun _ _ hs => hs) m ⟨hdisk, trivial⟩
  exact ⟨⟨passphrase, hprompt, hs.1⟩, fun hrole => (hs.2.1 hrole).1, fun hrole => (hs.2.1 hrole).2,
    hs.2.2⟩

/-! ## The second run -/

theorem smooth_mkdirAll (path : Bytes) : Smooth (mkdirAll paths path : Task Loc Unit) :=
  smooth_operation _ _

theorem smooth_createRest : Smooth (createRest paths env encoding cfg configPath inputs) := by
  have hcall : Smooth (call : Task Loc Unit) := smooth_operation _ _
  have hwrite : ∀ path data, Smooth (writeConfigFile paths env path data) := fun path data =>
    smooth_replaceFile done_chmod _ _ _
  have hgenerate : Smooth (generateCertificate paths env inputs.issue cfg.certificateFile cfg.keyFile []) :=
    hcall.bind fun _ => hcall.bind fun _ => hcall.bind fun _ => hcall.bind fun _ =>
      (smooth_mkdirAll _).bind fun _ => (smooth_mkdirAll _).bind fun _ => (hwrite _ _).bind fun _ =>
        hwrite _ _
  have hsave : Smooth (saveNode paths env encoding.json (configFile paths cfg configPath) cfg) :=
    (((smooth_mkdirAll _).handle _).bind fun _ => smooth_pure _).bind fun _ =>
      (smooth_mkdirAll _).bind fun _ => smooth_replaceFile (fun s => (needs_pure () s).done) _ _ _
  have hcreate : Smooth (createCertificate paths env cfg inputs) := by
    unfold createCertificate
    split
    · exact hgenerate
    · exact smooth_pure _
  exact hcreate.bind fun _ => hsave

/-- The verifier is made and saved with five operations. -/
theorem needs_newVerifier {passphrase : Bytes} (s : State Unit Loc Entry) :
    ∃ s', Needs 5 (do
      let verifier ← newVerifier encoding passphrase inputs.salt
      saveVerifier paths encoding verifier cfg.verifierFile : Task Loc Unit) s () s' := by
  let verifier := verifierOf encoding.crypto passphrase inputs.salt
  have hnew : Needs (1 + 0) (newVerifier encoding passphrase inputs.salt : Task Loc Auth.Verifier) s
      verifier s := Needs.bind (needs_call s) (needs_pure verifier s)
  have hmkdir : Needs 1 (mkdirAll paths (paths.dir cfg.verifierFile) : Task Loc Unit) s ()
      (s.create (paths.ancestors (paths.locate (paths.dir cfg.verifierFile)))) := needs_operation ..
  have hsave : Needs (1 + (1 + (1 + 1))) (saveVerifier paths encoding verifier cfg.verifierFile) s () _ :=
    Needs.bind hmkdir (needs_replaceFile needs_call _ _ _ _)
  exact ⟨_, Needs.bind (k := 4) hnew hsave⟩

/-- Without a verifier, a run whose operations all succeed succeeds. -/
theorem done_initializeNode (hapart : Apart paths cfg configPath) {passphrase : Bytes}
    (hprompt : promptPassphrase inputs.terminal true = .ok passphrase) {s : State Unit Loc Entry}
    (habsent : s.disk (paths.locate cfg.verifierFile) = none) :
    ∃ s', Done (initializeNode paths env encoding cfg configPath inputs) s () s' := by
  -- the state after the first `MkdirAll`
  let made := s.create (paths.ancestors (paths.locate cfg.dataDirectory))
  have hmkdir : Done (mkdirAll paths cfg.dataDirectory : Task Loc Unit) s () made :=
    (needs_operation _ _ s).done
  have hrefuse : Done (refuseExisting paths cfg.verifierFile) made () made :=
    refuseExisting_ok (create_disk habsent fun _ => hapart.outside) []
  have hask : Done (ofExcept (promptPassphrase inputs.terminal true) : Task Loc Bytes) made
      passphrase made := by
    rw [hprompt]
    exact (needs_pure _ _).done
  obtain ⟨s', hsaved⟩ := @needs_newVerifier _ _ paths encoding cfg inputs passphrase made
  obtain ⟨_, s'', hrest⟩ := @smooth_createRest _ _ paths env encoding cfg configPath inputs s'
  exact ⟨s'', (hmkdir.bind (hrefuse.bind (hask.bind hsaved.done))).bind hrest⟩

/-- With a verifier, a run refuses. -/
theorem initializeNode_refuses {s : State Unit Loc Entry} {entry : Entry}
    (h : s.disk (paths.locate cfg.verifierFile) = some entry) :
    ∃ m, initializeNode paths env encoding cfg configPath inputs ⟨s, []⟩ =
      .error (.failed (.error (shown cfg.verifierFile ++ " already exists; refusing to overwrite"))) m := by
  let made := s.create (paths.ancestors (paths.locate cfg.dataDirectory))
  have hmkdir : Done (mkdirAll paths cfg.dataDirectory : Task Loc Unit) s () made :=
    (needs_operation _ _ s).done
  have hrefuse := @refuseExisting_error _ paths cfg.verifierFile made entry
    (create_disk h fun hnone => absurd hnone (Option.some_ne_none _))
  exact ⟨_, bind_error ((bind_ok hmkdir).trans (bind_error hrefuse))⟩

/-- `Initialize` fails at the verifier: there is no passphrase, or an operation fails that is one of
    the seven up to the renaming of its file, but not the second, which is `Stat`. -/
def FailsEarly (inputs : Inputs) (plan : List (Option (Fault Entry String))) : Prop :=
  (∃ text, promptPassphrase inputs.terminal true = .error text) ∨
    ∃ outcome ∈ plan.take 1 ++ (plan.drop 2).take 5, outcome ≠ none

theorem createVerifier_error_iff (hapart : Apart paths cfg configPath)
    {m : Machine Unit Loc Entry String} (hnone : m.disk (paths.locate cfg.verifierFile) = none) :
    (∃ stop m', createVerifier paths encoding cfg inputs m = .error stop m') ↔
      FailsEarly inputs m.plan := by
  obtain ⟨s, plan⟩ := m
  let made := s.create (paths.ancestors (paths.locate cfg.dataDirectory))
  have hmkdir : Needs 1 (mkdirAll paths cfg.dataDirectory : Task Loc Unit) s () made :=
    needs_operation ..
  by_cases hfirst : ∃ outcome ∈ plan.take 1, outcome ≠ none
  · obtain ⟨stop, m', hrun⟩ := hmkdir.error plan hfirst
    obtain ⟨outcome, hmem, hne⟩ := hfirst
    exact iff_of_true ⟨stop, m', bind_error hrun⟩
      (.inr ⟨outcome, List.mem_append_left _ hmem, hne⟩)
  · have hrun := hmkdir.ok plan (by simpa using hfirst)
    have hrefuse := refuseExisting_ok (create_disk hnone fun _ => hapart.outside : made.disk _ = none)
      (plan.drop 1)
    rw [List.tail_drop] at hrefuse
    unfold createVerifier FailsEarly
    rw [bind_ok hrun, bind_ok hrefuse]
    cases hprompt : promptPassphrase inputs.terminal true with
    | error text => exact iff_of_true ⟨_, _, rfl⟩ (.inl ⟨text, rfl⟩)
    | ok passphrase =>
      obtain ⟨s', hsaved⟩ := @needs_newVerifier _ _ paths encoding cfg inputs passphrase made
      refine (hsaved.error_iff (plan.drop 2)).trans ?_
      simp only [reduceCtorEq, exists_false, false_or, List.mem_append, or_and_right, exists_or]
      exact (or_iff_right hfirst).symm

/-- **When a failed initialisation can be repeated.** Take any configuration of any role whose files
    do not fall together, and let `Initialize` fail, at any of its steps, where there was no verifier.
    A second run with the same arguments whose operations all succeed makes a complete bundle exactly
    if the first failed before it had saved the verifier. Otherwise the second run refuses. -/
theorem initialize_repeatable_iff (hapart : Apart paths cfg configPath)
    {m m' : Machine Unit Loc Entry String} {stop : Stop String}
    (hnone : m.disk (paths.locate cfg.verifierFile) = none)
    (hfail : initializeNode paths env encoding cfg configPath inputs m = .error stop m')
    {again : Inputs} {passphrase : Bytes}
    (hprompt : promptPassphrase again.terminal true = .ok passphrase) :
    (∃ s', Done (initializeNode paths env encoding cfg configPath again) m'.toState () s' ∧
        Complete paths env encoding cfg configPath again s') ↔
      FailsEarly inputs m.plan := by
  have hmem : cfg.verifierFile ∈ bundle paths cfg configPath := List.mem_cons_self
  rw [← createVerifier_error_iff hapart hnone]
  constructor
  · intro hagain
    cases hcreate : createVerifier paths encoding cfg inputs m with
    | error stop m'' => exact ⟨stop, m'', rfl⟩
    | ok _ m'' =>
      -- the verifier was saved, and the rest has left it alone
      exfalso
      obtain ⟨passphrase, _, hsaved⟩ :=
        Triple.of_ok (ensures_createVerifier (hapart.temps _ hmem _ hmem)) trivial hcreate
      have hrest : createRest paths env encoding cfg configPath inputs m'' = .error stop m' :=
        (bind_ok hcreate).symm.trans hfail
      have hkept := Triple.of_error (leaves_createRest hapart.toDistinct (Option.some_ne_none _)) hsaved
        hrest
      obtain ⟨m₃, hrefuse⟩ := @initializeNode_refuses _ _ paths env encoding cfg configPath again _ _
        hkept.2
      obtain ⟨s', hdone, _⟩ := hagain
      rw [Done, hrefuse] at hdone
      cases hdone
  · intro hearly
    obtain ⟨stop', m'', hcreate⟩ := hearly
    have hsame : EStateM.Result.error stop' m'' = .error stop m' := (bind_error hcreate).symm.trans hfail
    injection hsame with _ hmachine
    have habsent := (Triple.of_error (fails_createVerifier hapart) hnone hcreate).2
    rw [hmachine] at habsent
    obtain ⟨s', hdone⟩ := @done_initializeNode _ _ paths env encoding cfg configPath again hapart _
      hprompt _ habsent
    exact ⟨s', hdone, Triple.of_ok (ensures_initializeNode hapart.toDistinct) trivial hdone⟩

end Runs

/-! ## A server in its default directory -/

def samplePaths : Paths.System (List Bytes) := Paths.unix []

def sampleEnv : Env := ⟨.ok (ascii "/h"), ascii "host", false⟩

def sampleEncoding : Encoding :=
  ⟨⟨fun passphrase _ _ _ _ _ => passphrase, fun _ _ => []⟩, fun v => v.salt ++ v.hash, sampleNodeJSON⟩

def sampleInputs : Inputs :=
  ⟨⟨true, .ok (ascii "secret"), .ok (ascii "secret")⟩, [7], fun host => (host, host)⟩

def sampleOptions (dataDir : Bytes) : Options := ⟨[], dataDir, [], [], [], [], false, 0, 0⟩

def sampleNode : Node where
  role := roleServer
  listenAddress := defaultListen
  dataDirectory := ascii "/h/lnproxy"
  certificateFile := ascii "/h/lnproxy/server.crt"
  keyFile := ascii "/h/lnproxy/server.key"
  verifierFile := ascii "/h/lnproxy/passphrase.json"
  serverAddress := []
  serverFingerprint := []
  passphraseSource := ascii "prompt"
  connectionLimit := 256
  idleTimeout := defaultIdle
  exitName := ascii "host"
  exitID := ascii "host"
  capacity := defaultCapacity
  console := false

/-- `Initialize` of the server on an empty tree, with a failure after `n` operations. -/
def sampleStart (n : Nat) : Machine Unit (List Bytes) Entry String :=
  ⟨⟨(), fun _ => none⟩, List.replicate n none ++ [some ⟨.error "input/output error", none⟩]⟩

/-- What `lnproxy-init` initialises for a server without further flags. -/
theorem sample_apart : Apart samplePaths sampleNode [] := by
  have hsample : configured samplePaths sampleEnv .init roleServer (sampleOptions []) =
      .ok sampleNode := rfl
  obtain ⟨-, dataDir, -, h⟩ := configured_spec hsample
  exact h.apart fun hdir => absurd rfl hdir

/-- The first run cannot make the temporary file of the verifier, and the second makes the bundle. -/
theorem verifier_unsaved :
    ∃ m', initializeNode samplePaths sampleEnv sampleEncoding sampleNode [] sampleInputs (sampleStart 4) =
        .error (.failed (.error "input/output error")) m' ∧
      ∃ s', Done (initializeNode samplePaths sampleEnv sampleEncoding sampleNode [] sampleInputs)
          m'.toState () s' ∧
        Complete samplePaths sampleEnv sampleEncoding sampleNode [] sampleInputs s' := by
  obtain ⟨m', hfail⟩ : ∃ m', initializeNode samplePaths sampleEnv sampleEncoding sampleNode [] sampleInputs
      (sampleStart 4) = .error (.failed (.error "input/output error")) m' := ⟨_, rfl⟩
  have hearly : FailsEarly sampleInputs (sampleStart 4).plan :=
    .inr ⟨some ⟨.error "input/output error", none⟩, by decide, nofun⟩
  have hiff := @initialize_repeatable_iff _ _ samplePaths sampleEnv sampleEncoding sampleNode []
    sampleInputs sample_apart (sampleStart 4) m' _ rfl hfail sampleInputs (ascii "secret") rfl
  exact ⟨m', hfail, hiff.2 hearly⟩

/-- The key of the certificate cannot be made. The verifier is saved by then, and the second run
    refuses. -/
theorem verifier_stays :
    ∃ m', initializeNode samplePaths sampleEnv sampleEncoding sampleNode [] sampleInputs (sampleStart 7) =
        .error (.failed (.error "input/output error")) m' ∧
      m'.disk (samplePaths.locate sampleNode.certificateFile) = none ∧
      ∃ m'', initializeNode samplePaths sampleEnv sampleEncoding sampleNode [] sampleInputs
          ⟨m'.toState, []⟩ =
        .error (.failed (.error "/h/lnproxy/passphrase.json already exists; refusing to overwrite")) m'' :=
  ⟨_, rfl, rfl, _, rfl⟩

end LnProxy.Config
