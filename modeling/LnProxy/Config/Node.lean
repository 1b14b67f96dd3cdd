import LnProxy.Lib.Directories
import LnProxy.Lib.Fields
import LnProxy.Lib.UTF8
import LnProxy.Protocol.Frame

set_option autoImplicit false

/-! # Node configurations (`DefaultNode`, `FillPaths`, `Validate`, `LoadNode`, `SaveNode`)

A configuration names the files of a node, and is a JSON file itself. `DefaultNode` puts all of them
in the default data directory. `FillPaths` completes a configuration: a path that is empty gets its
place in the data directory, and one that is not stays as it is.

Go strings are byte strings, `encoding/json` is a parameter, and errors are their texts. -/

namespace LnProxy.Config

open Files UTF8

/-- A text of the source, as a Go string. -/
def ascii (text : String) : Bytes := text.toList.map fun c => c.toNat.toUInt8

def roleServer : Bytes := ascii "server"

def roleExit : Bytes := ascii "exit"

def roleServerExit : Bytes := ascii "server-exit"

def defaultListen : Bytes := ascii ":443"

/-- Five minutes, in nanoseconds. -/
def defaultIdle : Int := 5 * 60 * 1000000000

def defaultCapacity : Int := 128

structure Node where
  role : Bytes
  listenAddress : Bytes
  dataDirectory : Bytes
  certificateFile : Bytes
  keyFile : Bytes
  verifierFile : Bytes
  serverAddress : Bytes
  serverFingerprint : Bytes
  passphraseSource : Bytes
  connectionLimit : Int
  idleTimeout : Int
  exitName : Bytes
  exitID : Bytes
  capacity : Int
  console : Bool
  deriving DecidableEq, Repr

/-- What the process learns from its system. -/
structure Env where
  /-- `os.UserConfigDir` -/
  userConfigDir : Except String Bytes
  /-- `os.Hostname`, empty when it fails. -/
  hostname : Bytes
  /-- `runtime.GOOS` is `windows`. -/
  windows : Bool

/-- Programs on a tree of files. -/
abbrev Task (Loc α : Type) := Program Unit Loc Entry String α

/-- The text of an error. -/
def describe : Failure String → String
  | .notExist => "no such file or directory"
  | .error text => text

def ofExcept {Loc α : Type} : Except String α → Task Loc α
  | .error text => fail (.error text)
  | .ok a => pure a

/-- `fmt.Errorf` with `%w` at the end -/
def wrapping {Loc α : Type} (context : String) (p : Task Loc α) : Task Loc α :=
  handle p fun failure => fail (.error (context ++ describe failure))

/-- A string as `encoding/json` writes and reads it. -/
def coerced (text : Bytes) : Bytes := UTF8.encode (UTF8.coerce text)

def Node.coerced (n : Node) : Node :=
  { n with
    role := Config.coerced n.role
    listenAddress := Config.coerced n.listenAddress
    dataDirectory := Config.coerced n.dataDirectory
    certificateFile := Config.coerced n.certificateFile
    keyFile := Config.coerced n.keyFile
    verifierFile := Config.coerced n.verifierFile
    serverAddress := Config.coerced n.serverAddress
    serverFingerprint := Config.coerced n.serverFingerprint
    passphraseSource := Config.coerced n.passphraseSource
    exitName := Config.coerced n.exitName
    exitID := Config.coerced n.exitID }

/-- `encoding/json` on a `Node`: what is written is read back, with its strings made text. -/
structure NodeJSON where
  marshalIndent : Node → Bytes
  unmarshal : Bytes → Except String Node
  unmarshal_marshalIndent : ∀ n, unmarshal (marshalIndent n ++ [10]) = .ok n.coerced

/-- `n.Validate` -/
def Node.validate (n : Node) : Except String Unit :=
  if n.role ≠ roleServer ∧ n.role ≠ roleExit ∧ n.role ≠ roleServerExit then
    .error ("unsupported node role " ++ quoted (shown n.role))
  else if n.dataDirectory = [] then .error "data directory is required"
  else if n.connectionLimit ≤ 0 then .error "connection limit must be positive"
  else if n.idleTimeout ≤ 0 then .error "idle timeout must be positive"
  else if n.role = roleExit ∧ n.serverAddress = [] then .error "exit mode requires server_address"
  else if (n.role = roleExit ∨ n.role = roleServerExit) ∧ n.capacity ≤ 0 then
    .error "capacity must be positive"
  else if (n.role = roleServer ∨ n.role = roleServerExit) ∧ n.listenAddress = [] then
    .error "listen address is required"
  else .ok ()

section Functions

variable {Loc : Type} [DecidableEq Loc] (paths : Paths.System Loc) (env : Env) (json : NodeJSON)

def defaultDataDir : Except String Bytes :=
  env.userConfigDir.map fun base => paths.join base (ascii "lnproxy")

def certificateIn (dataDir : Bytes) : Bytes := paths.join dataDir (ascii "server.crt")

def keyIn (dataDir : Bytes) : Bytes := paths.join dataDir (ascii "server.key")

def verifierIn (dataDir : Bytes) : Bytes := paths.join dataDir (ascii "passphrase.json")

def configIn (dataDir : Bytes) : Bytes := paths.join dataDir (ascii "node.json")

def defaultNode (role : Bytes) : Except String Node :=
  match defaultDataDir paths env with
  | .error text => .error text
  | .ok dataDir => .ok {
      role := role
      listenAddress := defaultListen
      dataDirectory := dataDir
      certificateFile := certificateIn paths dataDir
      keyFile := keyIn paths dataDir
      verifierFile := verifierIn paths dataDir
      serverAddress := []
      serverFingerprint := []
      passphraseSource := ascii "prompt"
      connectionLimit := 256
      idleTimeout := defaultIdle
      exitName := if env.hostname = [] then ascii "node" else env.hostname
      exitID := []
      capacity := defaultCapacity
      console := false }

/-- The result of `n.FillPaths` -/
def Node.filled (n : Node) : Node :=
  let dataDir := if n.dataDirectory = [] then (defaultDataDir paths env).toOption.getD []
    else n.dataDirectory
  { n with
    dataDirectory := dataDir
    certificateFile := if n.certificateFile = [] then certificateIn paths dataDir else n.certificateFile
    keyFile := if n.keyFile = [] then keyIn paths dataDir else n.keyFile
    verifierFile := if n.verifierFile = [] then verifierIn paths dataDir else n.verifierFile
    listenAddress := if n.listenAddress = [] then defaultListen else n.listenAddress
    connectionLimit := if n.connectionLimit = 0 then 256 else n.connectionLimit
    idleTimeout := if n.idleTimeout = 0 then defaultIdle else n.idleTimeout
    capacity := if n.capacity = 0 then defaultCapacity else n.capacity
    exitID :=
      if n.exitID = [] then (if env.hostname = [] then ascii "exit" else env.hostname) else n.exitID
    passphraseSource := if n.passphraseSource = [] then ascii "prompt" else n.passphraseSource }

/-- `n.FillPaths`, which makes the data directory if it can. -/
def fillPaths (n : Node) : Task Loc Node := do
  ignoring (mkdirAll paths (n.filled paths env).dataDirectory)
  pure (n.filled paths env)

/-- `os.ReadFile` -/
def readData (path : Bytes) : Task Loc Bytes := do
  match ← stat paths path with
  | .directory => fail (.error ("read " ++ shown path ++ ": is a directory"))
  | .file data => pure data

def loadNode (path : Bytes) : Task Loc Node := do
  let data ← readData paths path
  let n ← wrapping "parse node config: " (ofExcept (json.unmarshal data))
  let n ← fillPaths paths env n
  ofExcept n.validate
  pure n

/-- The end of the name of a temporary file. -/
def temp : Bytes := ascii ".tmp"

def saveNode (path : Bytes) (n : Node) : Task Loc Unit := do
  let n ← fillPaths paths env n
  mkdirAll paths (paths.dir path)
  -- no `Chmod` here
  replaceAt paths temp (pure ()) path (json.marshalIndent n ++ [10])

end Functions

/-! ## Validation -/

/-- What `Validate` asks of the role `server-exit`. -/
theorem validate_serverExit {n : Node} (hrole : n.role = roleServerExit) : n.validate = .ok () ↔
    n.dataDirectory ≠ [] ∧ 0 < n.connectionLimit ∧ 0 < n.idleTimeout ∧ 0 < n.capacity ∧
      n.listenAddress ≠ [] := by
  have hserver : roleServerExit ≠ roleServer := by decide
  have hexit : roleServerExit ≠ roleExit := by decide
  unfold Node.validate
  rw [if_neg fun h => h.2.2 hrole]
  by_cases hdata : n.dataDirectory = []
  · simp [hdata]
  · rw [if_neg hdata]
    by_cases hlimit : n.connectionLimit ≤ 0
    · simp [hlimit, hdata]
    · rw [if_neg hlimit]
      by_cases hidle : n.idleTimeout ≤ 0
      · simp [hidle, hdata]
      · rw [if_neg hidle, if_neg fun h => hexit (hrole.symm.trans h.1)]
        by_cases hcapacity : n.capacity ≤ 0
        · simp [hcapacity, hrole, hdata]
        · by_cases hlisten : n.listenAddress = []
          · simp [hcapacity, hrole, hlisten]
          · simp [hcapacity, hrole, hlisten, hdata]
            omega

/-! ## A codec to run with -/

/-- The fields of a configuration in a row. -/
def Node.fields (n : Node) : List Bytes :=
  [n.role, n.listenAddress, n.dataDirectory, n.certificateFile, n.keyFile, n.verifierFile,
    n.serverAddress, n.serverFingerprint, n.passphraseSource, n.exitName, n.exitID,
    Fields.ofInt n.connectionLimit, Fields.ofInt n.idleTimeout, Fields.ofInt n.capacity,
    if n.console then [1] else []]

def Node.ofFields : List Bytes → Except String Node
  | [role, listenAddress, dataDirectory, certificateFile, keyFile, verifierFile, serverAddress,
      serverFingerprint, passphraseSource, exitName, exitID, limit, idle, capacity, console] =>
      .ok ⟨role, listenAddress, dataDirectory, certificateFile, keyFile, verifierFile, serverAddress,
        serverFingerprint, passphraseSource, Fields.toInt limit, Fields.toInt idle, exitName, exitID,
        Fields.toInt capacity, console = [1]⟩
  | _ => .error "unexpected end of JSON input"

theorem ofFields_fields (n : Node) : Node.ofFields n.fields = .ok n := by
  unfold Node.fields Node.ofFields
  simp only [Fields.toInt_ofInt]
  cases n with
  | mk _ _ _ _ _ _ _ _ _ _ _ _ _ _ console =>
    cases console with
    | false => rfl
    | true => rfl

def sampleNodeJSON : NodeJSON where
  marshalIndent n := Fields.writeAll n.coerced.fields
  unmarshal data := Node.ofFields (Fields.readAll 15 data)
  unmarshal_marshalIndent n := by
    have hread := Fields.readAll_writeAll n.coerced.fields [10]
    have hlength : n.coerced.fields.length = 15 := rfl
    rw [hlength] at hread
    rw [hread, ofFields_fields]

end LnProxy.Config
