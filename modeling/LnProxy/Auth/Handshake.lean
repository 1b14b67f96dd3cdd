import LnProxy.Lib.Dialogue
import LnProxy.Protocol.Frame

set_option autoImplicit false

/-! # The password handshake (`internal/auth/handshake.go`, `internal/auth/auth.go`)

The server sends a challenge with a fresh nonce, the salt and the parameters of its verifier. The
client derives a key from its passphrase and answers with a keyed hash of the nonce; the server
compares it with its own and sends the result. Argon2id and HMAC-SHA256 are parameters (`Crypto`), as
is `encoding/json` (`AuthCodec`).

`serverHandshake` and `clientHandshakePassword` are programs on the ends of one connection: every
`ReadFrame` and every write is a step, with the ways out that the code has after each of them. -/

namespace LnProxy.Auth

open Protocol Dialogue

/-! ## Keys and proofs -/

/-- `argon2.IDKey` (passphrase, salt, time, memory, threads, key length) and HMAC-SHA256 (key,
    message). -/
structure Crypto where
  idKey : Bytes → Bytes → UInt32 → UInt32 → UInt8 → UInt32 → Bytes
  hmac : Bytes → Bytes → Bytes

structure Parameters where
  memory : UInt32
  iterations : UInt32
  parallelism : UInt8
  deriving DecidableEq, Repr

structure Verifier where
  salt : Bytes
  hash : Bytes
  params : Parameters
  deriving DecidableEq, Repr

def keyLength : UInt32 := 32

def defaultParameters : Parameters := ⟨64 * 1024, 3, 2⟩

/-- The bytes of a Go string. -/
def bytesOf (text : String) : Bytes := text.toUTF8.data.toList

def derive (crypto : Crypto) (passphrase : String) (salt : Bytes) (params : Parameters) : Bytes :=
  let params := if params.memory = 0 then defaultParameters else params
  crypto.idKey (bytesOf passphrase) salt params.iterations params.memory params.parallelism keyLength

def label : Bytes := bytesOf "lnproxy-auth-v1"

def challengeResponse (crypto : Crypto) (verifier : Verifier) (nonce : Bytes) : Bytes :=
  crypto.hmac verifier.hash (label ++ nonce)

/-- `subtle.ConstantTimeCompare` of the expected proof and the one received. -/
def verifyChallenge (crypto : Crypto) (verifier : Verifier) (nonce response : Bytes) : Bool :=
  decide (challengeResponse crypto verifier nonce = response)

/-! ## Messages -/

/-- `protocol.Version` -/
def version : Int := 2

structure ChallengePayload where
  version : Int
  nonce : Bytes
  salt : Bytes
  iterations : UInt32
  memory : UInt32
  parallelism : UInt8
  deriving DecidableEq, Repr

structure AuthResponse where
  version : Int
  role : String
  response : Bytes
  sessionID : String
  deriving DecidableEq, Repr

structure AuthResult where
  ok : Bool
  error : String
  version : Int
  deriving DecidableEq, Repr

/-- `encoding/json` at the three messages. Marshalling does not fail at these types, and what was
    marshalled is unmarshalled to the same value. -/
structure AuthCodec where
  marshalChallenge : ChallengePayload → Bytes
  unmarshalChallenge : Bytes → Except String ChallengePayload
  marshalResponse : AuthResponse → Bytes
  unmarshalResponse : Bytes → Except String AuthResponse
  marshalResult : AuthResult → Bytes
  unmarshalResult : Bytes → Except String AuthResult
  challenge_roundtrip : ∀ c, unmarshalChallenge (marshalChallenge c) = .ok c
  response_roundtrip : ∀ r, unmarshalResponse (marshalResponse r) = .ok r
  result_roundtrip : ∀ r, unmarshalResult (marshalResult r) = .ok r

/-- `ErrInvalidPassword` -/
def errInvalidPassword : Err := .message "authentication failed"

/-- The challenge for a nonce. -/
def challengeFor (verifier : Verifier) (nonce : Bytes) : ChallengePayload :=
  ⟨version, nonce, verifier.salt, verifier.params.iterations, verifier.params.memory,
    verifier.params.parallelism⟩

/-- `makeChallenge`; `random` is what reading 32 bytes from `rand.Reader` gives. -/
def makeChallenge (json : AuthCodec) (verifier : Verifier) (random : Except Err Bytes) :
    Except Err Bytes :=
  random.map fun nonce => json.marshalChallenge (challengeFor verifier nonce)

/-- The check of `decodeChallenge`. -/
def ChallengePayload.invalid (challenge : ChallengePayload) : Prop :=
  challenge.version ≠ Auth.version ∨ challenge.nonce.length < 16 ∨ challenge.salt.length < 8 ∨
    challenge.iterations < 1 ∨ 10 < challenge.iterations ∨
    challenge.memory < 8 * 1024 ∨ 1024 * 1024 < challenge.memory ∨
    challenge.parallelism < 1 ∨ 16 < challenge.parallelism

instance (challenge : ChallengePayload) : Decidable challenge.invalid :=
  inferInstanceAs (Decidable (_ ∨ _))

def decodeChallenge (json : AuthCodec) (payload : Bytes) : Except Err ChallengePayload :=
  match json.unmarshalChallenge payload with
  | .error cause => .error (.message cause)
  | .ok challenge =>
    if challenge.invalid then .error (.message "invalid authentication challenge")
    else .ok challenge

/-! ## Programs on a connection -/

/-- `ReadFrame` on an input that may go on: it waits where it would run into the end. -/
def awaitFrame : Await UInt8 (Except Err Frame) := fun ended input =>
  match readFrame input with
  | .ok (frame, rest) => some (.ok frame, rest)
  | .error (.frameSize size) => some (.error (.frameSize size), input.drop headerSize)
  | .error err => if ended then some (.error err, []) else none

abbrev Talk (α : Type) := Program UInt8 (Except Err Frame) α

/-- `Writer.Write`: an oversized frame is refused before anything is written. -/
def send {α : Type} (frame : Frame) (next : Option Err → Talk α) : Talk α :=
  match writeFrame frame with
  | .error err => next (some err)
  | .ok bytes => .write bytes fun ok => next (if ok then none else some (.transport "write"))

/-- What the server makes of the frame it reads. -/
inductive Verdict where
  /-- It fails before it comes to the proof. -/
  | refused (err : Err)
  /-- It has compared the proof, with this outcome. -/
  | judged (response : AuthResponse) (ok : Bool)
  deriving DecidableEq, Repr

/-- `ServerHandshake` from the frame it reads to the value of `ok`. -/
def judge (json : AuthCodec) (crypto : Crypto) (verifier : Verifier) (roleLimit : String)
    (challenge : Bytes) : Except Err Frame → Verdict
  | .error err => .refused err
  | .ok frame =>
    if frame.type ≠ frameAuthResponse then
      .refused (.message ("expected auth response, got frame " ++ toString frame.type))
    else
      match json.unmarshalResponse frame.payload with
      | .error cause => .refused (.message ("decode auth response: " ++ cause))
      | .ok response =>
        match decodeChallenge json challenge with
        | .error err => .refused err
        | .ok decoded =>
          .judged response (decide (response.version = version) &&
            verifyChallenge crypto verifier decoded.nonce response.response &&
            (decide (roleLimit = "") || decide (roleLimit = response.role)))

/-- The result the server sends. -/
def resultFor (ok : Bool) : AuthResult :=
  ⟨ok, if ok then "" else "authentication failed", version⟩

/-- `protocol.AuthResponse{}` -/
def noResponse : AuthResponse := ⟨0, "", [], ""⟩

/-- `ServerHandshake` from the value of `ok` to its end. -/
def conclude (json : AuthCodec) : Verdict → Talk (AuthResponse × Option Err)
  | .refused err => .ret (noResponse, some err)
  | .judged response ok =>
    send ⟨frameAuthResult, 0, json.marshalResult (resultFor ok)⟩ fun
      | some err => .ret (response, some err)
      | none => .ret (response, if ok then none else some errInvalidPassword)

def serverHandshake (json : AuthCodec) (crypto : Crypto) (verifier : Verifier) (roleLimit : String)
    (random : Except Err Bytes) : Talk (AuthResponse × Option Err) :=
  match makeChallenge json verifier random with
  | .error err => .ret (noResponse, some err)
  | .ok challenge =>
    send ⟨frameChallenge, 0, challenge⟩ fun
      | some err => .ret (noResponse, some err)
      | none => .read fun received =>
        conclude json (judge json crypto verifier roleLimit challenge received)

/-- The verifier a client derives from a challenge. -/
def derivedVerifier (crypto : Crypto) (passphrase : String) (challenge : ChallengePayload) :
    Verifier :=
  let params : Parameters := ⟨challenge.memory, challenge.iterations, challenge.parallelism⟩
  ⟨challenge.salt, derive crypto passphrase challenge.salt params, params⟩

/-- The answer of a client to a challenge. -/
def answerTo (crypto : Crypto) (passphrase role : String) (challenge : ChallengePayload) :
    AuthResponse :=
  ⟨version, role,
    challengeResponse crypto (derivedVerifier crypto passphrase challenge) challenge.nonce, ""⟩

/-- `ClientHandshakePassword` from the last frame it reads. -/
def readResult (json : AuthCodec) : Except Err Frame → Option Err
  | .error err => some err
  | .ok frame =>
    if frame.type ≠ frameAuthResult then
      some (.message ("expected authentication result, got frame " ++ toString frame.type))
    else
      match json.unmarshalResult frame.payload with
      | .error cause => some (.message cause)
      | .ok result =>
        if result.version ≠ version then
          some (.message ("protocol version mismatch: server uses " ++ toString result.version))
        else if result.ok then none
        else some errInvalidPassword

/-- `ClientHandshakePassword` from the first frame it reads. -/
def respond (json : AuthCodec) (crypto : Crypto) (passphrase role : String) :
    Except Err Frame → Talk (Option Err)
  | .error err => .ret (some err)
  | .ok frame =>
    if frame.type ≠ frameChallenge then
      .ret (some (.message ("expected challenge, got frame " ++ toString frame.type)))
    else
      match decodeChallenge json frame.payload with
      | .error err => .ret (some err)
      | .ok challenge =>
        let response := answerTo crypto passphrase role challenge
        send ⟨frameAuthResponse, 0, json.marshalResponse response⟩ fun
          | some err => .ret (some err)
          | none => .read fun received => .ret (readResult json received)

def clientHandshakePassword (json : AuthCodec) (crypto : Crypto) (passphrase role : String) :
    Talk (Option Err) :=
  .read (respond json crypto passphrase role)

/-! ## Both programs against each other -/

variable {json : AuthCodec} {crypto : Crypto} {verifier : Verifier}
variable {passphrase role roleLimit : String} {nonce : Bytes}

/-- The salt and the parameters are within the bounds a client accepts. -/
def Verifier.acceptable (verifier : Verifier) : Prop :=
  8 ≤ verifier.salt.length ∧
    1 ≤ verifier.params.iterations ∧ verifier.params.iterations ≤ 10 ∧
    8 * 1024 ≤ verifier.params.memory ∧ verifier.params.memory ≤ 1024 * 1024 ∧
    1 ≤ verifier.params.parallelism ∧ verifier.params.parallelism ≤ 16

instance (verifier : Verifier) : Decidable verifier.acceptable := inferInstanceAs (Decidable (_ ∧ _))

/-- The messages of the two programs fit in a frame. -/
structure Fits (json : AuthCodec) (crypto : Crypto) (verifier : Verifier) (passphrase role : String)
    (nonce : Bytes) : Prop where
  challenge : (json.marshalChallenge (challengeFor verifier nonce)).length ≤ maxFrameSize
  response : (json.marshalResponse
    (answerTo crypto passphrase role (challengeFor verifier nonce))).length ≤ maxFrameSize
  result : ∀ ok, (json.marshalResult (resultFor ok)).length ≤ maxFrameSize

/-- The server admits the role. -/
def admits (roleLimit role : String) : Prop := roleLimit = "" ∨ roleLimit = role

instance (roleLimit role : String) : Decidable (admits roleLimit role) :=
  inferInstanceAs (Decidable (_ ∨ _))

/-- A program that has returned an error closes the connection. -/
def serverFails (result : AuthResponse × Option Err) : Bool := result.2.isSome

def clientFails (result : Option Err) : Bool := result.isSome

/-- The handshake as a system of two programs, the server on the left. -/
abbrev Handshake := State UInt8 (Except Err Frame) (AuthResponse × Option Err) (Option Err)

def handshake : Handshake → Side × Bool → Option Handshake :=
  Dialogue.step awaitFrame serverFails clientFails

theorem send_of_fits {α : Type} {frame : Frame} (hfits : frame.fits) (next : Option Err → Talk α) :
    send frame next = .write (encodeFrame frame)
      fun ok => next (if ok then none else some (.transport "write")) := by
  rw [send, writeFrame, if_neg (Nat.not_lt.2 hfits)]

theorem awaitFrame_encodeFrame (ended : Bool) {frame : Frame} (hfits : frame.fits) :
    awaitFrame ended (encodeFrame frame) = some (.ok frame, []) := by
  have hread := readFrame_encodeFrame frame [] hfits
  rw [List.append_nil] at hread
  rw [awaitFrame, hread]

theorem challengeFor_invalid_iff (hnonce : nonce.length = 32) :
    (challengeFor verifier nonce).invalid ↔ ¬ verifier.acceptable := by
  simp only [ChallengePayload.invalid, challengeFor, Verifier.acceptable, hnonce]
  constructor
  · rintro h ⟨hsalt, hi, hi', hm, hm', hp, hp'⟩
    rcases h with h | h | h | h | h | h | h | h | h
    · exact h rfl
    · omega
    · omega
    · exact UInt32.not_lt.2 hi h
    · exact UInt32.not_lt.2 hi' h
    · exact UInt32.not_lt.2 hm h
    · exact UInt32.not_lt.2 hm' h
    · exact UInt8.not_lt.2 hp h
    · exact UInt8.not_lt.2 hp' h
  · intro h
    by_contra hvalid
    simp only [not_or, Nat.not_lt, UInt32.not_lt, UInt8.not_lt] at hvalid
    obtain ⟨-, -, hsalt, hi, hi', hm, hm', hp, hp'⟩ := hvalid
    exact h ⟨hsalt, hi, hi', hm, hm', hp, hp'⟩

theorem decodeChallenge_marshal (challenge : ChallengePayload) :
    decodeChallenge json (json.marshalChallenge challenge) =
      if challenge.invalid then .error (.message "invalid authentication challenge")
      else .ok challenge := by
  rw [decodeChallenge, json.challenge_roundtrip]

/-- The verdict on the answer of a client. -/
def accepts (crypto : Crypto) (verifier : Verifier) (roleLimit passphrase role : String)
    (nonce : Bytes) : Bool :=
  verifyChallenge crypto verifier nonce
      (answerTo crypto passphrase role (challengeFor verifier nonce)).response &&
    decide (admits roleLimit role)

theorem decide_admits : decide (admits roleLimit role) =
    (decide (roleLimit = "") || decide (roleLimit = role)) := by
  rw [Bool.eq_iff_iff, decide_eq_true_eq, Bool.or_eq_true, decide_eq_true_eq, decide_eq_true_eq]
  rfl

theorem judge_answerTo (hvalid : ¬ (challengeFor verifier nonce).invalid) :
    judge json crypto verifier roleLimit (json.marshalChallenge (challengeFor verifier nonce))
      (.ok ⟨frameAuthResponse, 0, json.marshalResponse
        (answerTo crypto passphrase role (challengeFor verifier nonce))⟩) =
      .judged (answerTo crypto passphrase role (challengeFor verifier nonce))
        (accepts crypto verifier roleLimit passphrase role nonce) := by
  simp only [judge, ne_eq, not_true_eq_false, if_false, json.response_roundtrip,
    decodeChallenge_marshal, if_neg hvalid]
  rw [accepts, decide_admits]
  rfl

theorem respond_challengeFor :
    respond json crypto passphrase role
      (.ok ⟨frameChallenge, 0, json.marshalChallenge (challengeFor verifier nonce)⟩) =
      if (challengeFor verifier nonce).invalid then
        .ret (some (.message "invalid authentication challenge"))
      else
        send ⟨frameAuthResponse, 0, json.marshalResponse
            (answerTo crypto passphrase role (challengeFor verifier nonce))⟩ fun
          | some err => .ret (some err)
          | none => .read fun received => .ret (readResult json received) := by
  simp only [respond, ne_eq, not_true_eq_false, if_false, decodeChallenge_marshal]
  by_cases hinvalid : (challengeFor verifier nonce).invalid
  · simp only [if_pos hinvalid]
  · simp only [if_neg hinvalid]

theorem readResult_resultFor (ok : Bool) :
    readResult json (.ok ⟨frameAuthResult, 0, json.marshalResult (resultFor ok)⟩) =
      if ok then none else some errInvalidPassword := by
  simp [readResult, json.result_roundtrip, resultFor]

section Settling

variable {P : Handshake → Prop}

/-- The server has sent its challenge and the client has read it. -/
theorem settles_challenge (hfits : Fits json crypto verifier passphrase role nonce)
    (h : Transition.Settles handshake P
      ⟨.read fun received => conclude json (judge json crypto verifier roleLimit
          (json.marshalChallenge (challengeFor verifier nonce)) received),
        respond json crypto passphrase role
          (.ok ⟨frameChallenge, 0, json.marshalChallenge (challengeFor verifier nonce)⟩), [], []⟩) :
    Transition.Settles handshake P
      (start (serverHandshake json crypto verifier roleLimit (.ok nonce))
        (clientHandshakePassword json crypto passphrase role)) := by
  have hframe : Frame.fits
      ⟨frameChallenge, 0, json.marshalChallenge (challengeFor verifier nonce)⟩ := hfits.challenge
  simp only [start, serverHandshake, makeChallenge, Except.map, send_of_fits hframe]
  refine settles_left (Program.waits_read _ rfl) rfl rfl ?_
  refine settles_right (Program.waits_read _ rfl) ?_ rfl h
  simp only [Dialogue.step, clientHandshakePassword, Program.step, List.nil_append,
    awaitFrame_encodeFrame _ hframe]
  rfl

/-- The client has sent its answer and the server has read it. -/
theorem settles_response (hfits : Fits json crypto verifier passphrase role nonce)
    {next : Except Err Frame → Talk (AuthResponse × Option Err)}
    (h : Transition.Settles handshake P
      ⟨next (.ok ⟨frameAuthResponse, 0, json.marshalResponse
          (answerTo crypto passphrase role (challengeFor verifier nonce))⟩),
        .read fun received => .ret (readResult json received), [], []⟩) :
    Transition.Settles handshake P
      ⟨.read next,
        send ⟨frameAuthResponse, 0, json.marshalResponse
            (answerTo crypto passphrase role (challengeFor verifier nonce))⟩ fun
          | some err => .ret (some err)
          | none => .read fun received => .ret (readResult json received), [], []⟩ := by
  have hframe : Frame.fits ⟨frameAuthResponse, 0, json.marshalResponse
      (answerTo crypto passphrase role (challengeFor verifier nonce))⟩ := hfits.response
  rw [send_of_fits hframe]
  refine settles_right (Program.waits_read _ rfl) rfl rfl ?_
  refine settles_left (Program.waits_read _ rfl) ?_ rfl h
  simp only [Dialogue.step, Program.step, List.nil_append, awaitFrame_encodeFrame _ hframe]
  rfl

/-- The server has sent the result and returned, and the client has read it. -/
theorem settles_result (hfits : Fits json crypto verifier passphrase role nonce)
    {response : AuthResponse} {ok : Bool}
    (h : P ⟨.ret (response, if ok then none else some errInvalidPassword),
      .ret (if ok then none else some errInvalidPassword), [], []⟩) :
    Transition.Settles handshake P
      ⟨conclude json (.judged response ok), .read fun received => .ret (readResult json received),
        [], []⟩ := by
  have hframe : Frame.fits ⟨frameAuthResult, 0, json.marshalResult (resultFor ok)⟩ := hfits.result ok
  simp only [conclude, send_of_fits hframe]
  refine settles_left (Program.waits_read _ rfl) rfl rfl ?_
  refine settles_right (Program.waits_ret _ _ _) ?_ rfl (settles_ret h)
  simp only [Dialogue.step, Program.step, List.nil_append, awaitFrame_encodeFrame _ hframe,
    ← @readResult_resultFor json ok]
  rfl

/-- A client that does not take the challenge hangs up, and so does the server. -/
theorem settles_invalid {next : Except Err Frame → Talk (AuthResponse × Option Err)} {err : Err}
    (h : Transition.Settles handshake P ⟨next (.error .eof), .ret (some err), [], []⟩) :
    Transition.Settles handshake P ⟨.read next, .ret (some err), [], []⟩ :=
  settles_left (Program.waits_ret _ _ _) rfl rfl h

end Settling

theorem accepts_eq_true : accepts crypto verifier roleLimit passphrase role nonce = true ↔
    admits roleLimit role ∧
      crypto.hmac (derive crypto passphrase verifier.salt verifier.params) (label ++ nonce) =
        crypto.hmac verifier.hash (label ++ nonce) := by
  rw [accepts, Bool.and_eq_true, decide_eq_true_eq, verifyChallenge, decide_eq_true_eq, and_comm]
  exact and_congr_right fun _ => eq_comm

/-- Both programs have returned, and the server's error says whether the client has failed too. -/
def Agreed (response : AuthResponse) (err : Option Err) (s : Handshake) : Prop :=
  s.left = .ret (response, err) ∧ ∃ err', s.right = .ret err' ∧ (err = none ↔ err' = none)

/-- A client that takes the challenge gets the verdict on its answer. -/
theorem settles_of_acceptable (hfits : Fits json crypto verifier passphrase role nonce)
    (hnonce : nonce.length = 32) (hacceptable : verifier.acceptable) :
    Transition.Settles handshake
      (Agreed (answerTo crypto passphrase role (challengeFor verifier nonce))
        (if accepts crypto verifier roleLimit passphrase role nonce then none
          else some errInvalidPassword))
      (start (serverHandshake json crypto verifier roleLimit (.ok nonce))
        (clientHandshakePassword json crypto passphrase role)) := by
  have hvalid : ¬ (challengeFor verifier nonce).invalid := fun h =>
    (challengeFor_invalid_iff hnonce).1 h hacceptable
  refine settles_challenge hfits ?_
  rw [respond_challengeFor, if_neg hvalid]
  refine settles_response hfits ?_
  rw [judge_answerTo hvalid]
  exact settles_result hfits ⟨rfl, _, rfl, Iff.rfl⟩

theorem settles_of_not_acceptable (hfits : Fits json crypto verifier passphrase role nonce)
    (hnonce : nonce.length = 32) (hacceptable : ¬ verifier.acceptable) :
    Transition.Settles handshake (Agreed noResponse (some .eof))
      (start (serverHandshake json crypto verifier roleLimit (.ok nonce))
        (clientHandshakePassword json crypto passphrase role)) := by
  have hinvalid := (challengeFor_invalid_iff hnonce).2 hacceptable
  refine settles_challenge hfits ?_
  rw [respond_challengeFor, if_pos hinvalid]
  exact settles_invalid (settles_ret ⟨rfl, _, rfl, by simp⟩)

/-! ## The server against any peer -/

section Soundness

variable {await : Await UInt8 (Except Err Frame)} {input : Bytes} {α : Type} {a : α}

theorem returns_send {frame : Frame} {next : Option Err → Talk α}
    (h : Program.Returns await (send frame next) input a) :
    ∃ err, Program.Returns await (next err) input a := by
  unfold send at h
  split at h
  · exact ⟨_, h⟩
  · cases h with
    | write ok h => exact ⟨_, h⟩

theorem judge_eq_judged {challenge : Bytes} {received : Except Err Frame} {response : AuthResponse}
    {ok : Bool} (h : judge json crypto verifier roleLimit challenge received = .judged response ok) :
    ∃ frame decoded, received = .ok frame ∧ frame.type = frameAuthResponse ∧
      json.unmarshalResponse frame.payload = .ok response ∧
      decodeChallenge json challenge = .ok decoded ∧
      ok = (decide (response.version = version) &&
        verifyChallenge crypto verifier decoded.nonce response.response &&
        (decide (roleLimit = "") || decide (roleLimit = response.role))) := by
  cases received with
  | error err => cases h
  | ok frame =>
    simp only [judge] at h
    split at h
    · cases h
    · next htype =>
      split at h
      · cases h
      · next hresponse =>
        split at h
        · cases h
        · next decoded hdecoded =>
          cases h
          exact ⟨frame, decoded, rfl, not_not.1 htype, hresponse, hdecoded, rfl⟩

/-- The server succeeds only where it has accepted the proof. -/
theorem returns_conclude {verdict : Verdict} {response : AuthResponse}
    (h : Program.Returns await (conclude json verdict) input (response, none)) :
    verdict = .judged response true := by
  cases verdict with
  | refused err => cases h
  | judged response' ok =>
    rw [conclude] at h
    obtain ⟨err, h⟩ := returns_send h
    cases err with
    | some err => cases h
    | none =>
      cases ok with
      | true =>
        cases h
        rfl
      | false => cases h

theorem awaitFrame_ok {ended : Bool} {frame : Frame} {rest : Bytes}
    (h : awaitFrame ended input = some (.ok frame, rest)) : readFrame input = .ok (frame, rest) := by
  unfold awaitFrame at h
  split at h
  · next hread =>
    cases h
    exact hread
  · cases h
  · split at h <;> cases h

/-- **The server accepts only the proof for its own nonce.** -/
theorem sound_of_returns {random : Except Err Bytes} {response : AuthResponse}
    (h : Program.Returns awaitFrame (serverHandshake json crypto verifier roleLimit random) input
      (response, none)) :
    ∃ nonce frame rest, random = .ok nonce ∧ readFrame input = .ok (frame, rest) ∧
      frame.type = frameAuthResponse ∧ json.unmarshalResponse frame.payload = .ok response ∧
      response.version = version ∧ response.response = crypto.hmac verifier.hash (label ++ nonce) := by
  cases random with
  | error err => cases h
  | ok nonce =>
    simp only [serverHandshake, makeChallenge, Except.map] at h
    obtain ⟨err, h⟩ := returns_send h
    cases err with
    | some err => cases h
    | none =>
      cases h with
      | read ended hread h =>
        obtain ⟨frame, decoded, rfl, htype, hresponse, hdecoded, hok⟩ :=
          judge_eq_judged (returns_conclude h)
        have hnonce : decoded.nonce = nonce := by
          rw [decodeChallenge_marshal] at hdecoded
          split at hdecoded
          · cases hdecoded
          · cases hdecoded
            rfl
        have hok := hok.symm
        simp only [Bool.and_eq_true, decide_eq_true_eq, verifyChallenge, hnonce] at hok
        exact ⟨nonce, frame, _, rfl, awaitFrame_ok hread, htype, hresponse, hok.1.1,
          hok.1.2.symm⟩

/-- The answer of a client that knows the passphrase is accepted. -/
theorem returns_of_accepts (hfits : Fits json crypto verifier passphrase role nonce)
    (hnonce : nonce.length = 32) (hacceptable : verifier.acceptable)
    (haccepts : accepts crypto verifier roleLimit passphrase role nonce = true) :
    Program.Returns awaitFrame (serverHandshake json crypto verifier roleLimit (.ok nonce))
      (encodeFrame ⟨frameAuthResponse, 0, json.marshalResponse
        (answerTo crypto passphrase role (challengeFor verifier nonce))⟩)
      (answerTo crypto passphrase role (challengeFor verifier nonce), none) := by
  have hchallenge : Frame.fits
      ⟨frameChallenge, 0, json.marshalChallenge (challengeFor verifier nonce)⟩ := hfits.challenge
  have hresponse : Frame.fits ⟨frameAuthResponse, 0, json.marshalResponse
      (answerTo crypto passphrase role (challengeFor verifier nonce))⟩ := hfits.response
  have hresult : Frame.fits ⟨frameAuthResult, 0, json.marshalResult (resultFor true)⟩ :=
    hfits.result true
  have hvalid : ¬ (challengeFor verifier nonce).invalid := fun h =>
    (challengeFor_invalid_iff hnonce).1 h hacceptable
  simp only [serverHandshake, makeChallenge, Except.map, send_of_fits hchallenge]
  refine .write true (.read false (awaitFrame_encodeFrame false hresponse) ?_)
  rw [judge_answerTo hvalid, haccepts, conclude, send_of_fits hresult]
  exact .write true (.ret _ _)

end Soundness

/-! ## A codec to run the model with -/

/-- A field: every byte is announced, and so is the end. -/
def putField (bs : Bytes) : Bytes := bs.flatMap (fun b => [1, b]) ++ [0]

def getField : Bytes → Bytes × Bytes
  | [] => ([], [])
  | [_] => ([], [])
  | mark :: b :: rest =>
    if mark = 1 then (b :: (getField rest).1, (getField rest).2) else ([], b :: rest)

def getFields : Nat → Bytes → List Bytes
  | 0, _ => []
  | n + 1, bs => (getField bs).1 :: getFields n (getField bs).2

theorem getField_putField (bs rest : Bytes) : getField (putField bs ++ rest) = (bs, rest) := by
  induction bs with
  | nil => cases rest <;> rfl
  | cons b bs ih =>
    have hcons : putField (b :: bs) ++ rest = 1 :: b :: (putField bs ++ rest) := rfl
    rw [hcons, getField, if_pos rfl, ih]

theorem getFields_putField {n : Nat} {fields : List Bytes} (h : fields.length = n) :
    getFields n (fields.flatMap putField) = fields := by
  subst h
  induction fields with
  | nil => rfl
  | cons bs fields ih =>
    rw [List.length_cons, getFields, List.flatMap_cons, getField_putField, ih]

def putInt : Int → Bytes
  | .ofNat n => List.replicate n 0
  | .negSucc n => 1 :: List.replicate n 0

def getInt (bs : Bytes) : Int :=
  if bs.head? = some 1 then .negSucc (bs.length - 1) else .ofNat bs.length

theorem getInt_putInt (n : Int) : getInt (putInt n) = n := by
  cases n with
  | ofNat n => cases n <;> simp [putInt, getInt, List.replicate_succ]
  | negSucc n => simp [putInt, getInt]

def textOf (bs : Bytes) : String := (String.fromUTF8? ⟨bs.toArray⟩).getD ""

theorem textOf_bytesOf (text : String) : textOf (bytesOf text) = text := by
  have hvalid : ByteArray.IsValidUTF8 ⟨text.toByteArray.data⟩ := text.isValidUTF8
  simp [textOf, bytesOf, String.fromUTF8?, hvalid, String.fromUTF8]

/-- A stand-in for `encoding/json`: the fields of a message one after another. -/
def sampleAuthCodec : AuthCodec where
  marshalChallenge c := [putInt c.version, c.nonce, c.salt, BigEndian.toBytes 4 c.iterations.toNat,
    BigEndian.toBytes 4 c.memory.toNat, [c.parallelism]].flatMap putField
  unmarshalChallenge payload :=
    match getFields 6 payload with
    | [v, nonce, salt, i, m, p] => .ok ⟨getInt v, nonce, salt, UInt32.ofNat (BigEndian.ofBytes i),
        UInt32.ofNat (BigEndian.ofBytes m), p.headD 0⟩
    | _ => .error "challenge"
  marshalResponse r :=
    [putInt r.version, bytesOf r.role, r.response, bytesOf r.sessionID].flatMap putField
  unmarshalResponse payload :=
    match getFields 4 payload with
    | [v, role, response, sessionID] => .ok ⟨getInt v, textOf role, response, textOf sessionID⟩
    | _ => .error "response"
  marshalResult r :=
    [[if r.ok then 1 else 0], bytesOf r.error, putInt r.version].flatMap putField
  unmarshalResult payload :=
    match getFields 3 payload with
    | [ok, error, v] => .ok ⟨decide (ok = [1]), textOf error, getInt v⟩
    | _ => .error "result"
  challenge_roundtrip c := by
    have hi := BigEndian.ofBytes_toBytes 4 _ (by simpa using c.iterations.toNat_lt)
    have hm := BigEndian.ofBytes_toBytes 4 _ (by simpa using c.memory.toNat_lt)
    rw [getFields_putField]
    · simp [getInt_putInt, hi, hm]
    · rfl
  response_roundtrip r := by
    rw [getFields_putField]
    · simp [getInt_putInt, textOf_bytesOf]
    · rfl
  result_roundtrip r := by
    rw [getFields_putField]
    · simp [getInt_putInt, textOf_bytesOf]
    · rfl

/-- A toy derivation and a toy keyed hash. -/
def sampleCrypto : Crypto where
  idKey passphrase salt _ _ _ _ := passphrase ++ salt
  hmac key message := key ++ message

def sampleVerifier : Verifier :=
  let salt := [1, 2, 3, 4, 5, 6, 7, 8]
  ⟨salt, derive sampleCrypto "secret" salt defaultParameters, defaultParameters⟩

def sampleNonce : Bytes := List.replicate 32 7

/-! ## Agreement and soundness -/

/-- **The handshake decides who knows the passphrase.** Against the client, whatever the order of the
    steps, both programs return, the server successfully iff the client does, namely iff the client
    accepts the salt and the parameters, the server admits the role and the two keyed hashes of the
    nonce are equal; the server then returns the client's role. Against any other peer the server
    succeeds only if the first frame carries the hash for the nonce of this handshake. -/
theorem handshake_agrees (json : AuthCodec) (crypto : Crypto) (verifier : Verifier)
    (roleLimit : String) (nonce : Bytes) :
    (∀ passphrase role, nonce.length = 32 → Fits json crypto verifier passphrase role nonce →
      Transition.Settles handshake
        (fun s => ∃ response err err', s.left = .ret (response, err) ∧ s.right = .ret err' ∧
          (err = none ↔ err' = none) ∧
          (err = none ↔ verifier.acceptable ∧ admits roleLimit role ∧
            crypto.hmac (derive crypto passphrase verifier.salt verifier.params) (label ++ nonce) =
              crypto.hmac verifier.hash (label ++ nonce)) ∧
          (err = none → response.role = role))
        (start (serverHandshake json crypto verifier roleLimit (.ok nonce))
          (clientHandshakePassword json crypto passphrase role))) ∧
    (∀ input response,
      Program.Returns awaitFrame (serverHandshake json crypto verifier roleLimit (.ok nonce)) input
        (response, none) →
      ∃ frame rest, readFrame input = .ok (frame, rest) ∧ frame.type = frameAuthResponse ∧
        json.unmarshalResponse frame.payload = .ok response ∧ response.version = 2 ∧
        response.response = crypto.hmac verifier.hash (label ++ nonce)) := by
  refine ⟨fun passphrase role hnonce hfits => ?_, fun input response h => ?_⟩
  · by_cases hacceptable : verifier.acceptable
    · refine (settles_of_acceptable hfits hnonce hacceptable).imp ?_
      rintro s ⟨hleft, err', hright, hagree⟩
      refine ⟨_, _, err', hleft, hright, hagree, ?_, fun _ => rfl⟩
      rw [← accepts_eq_true]
      simp [hacceptable]
    · refine (settles_of_not_acceptable hfits hnonce hacceptable).imp ?_
      rintro s ⟨hleft, err', hright, hagree⟩
      exact ⟨_, _, err', hleft, hright, hagree, by simp [hacceptable], by simp⟩
  · obtain ⟨_, frame, rest, hnonce, hread, htype, hresponse, hversion, hmac⟩ := sound_of_returns h
    cases hnonce
    exact ⟨frame, rest, hread, htype, hresponse, hversion, hmac⟩

/-- With the right passphrase both programs succeed, and the server returns the role. -/
theorem sample_handshake_agrees :
    Transition.Settles handshake
        (fun s => ∃ response, s.left = .ret (response, none) ∧ s.right = .ret none ∧
          response.role = "client")
        (start (serverHandshake sampleAuthCodec sampleCrypto sampleVerifier "" (.ok sampleNonce))
          (clientHandshakePassword sampleAuthCodec sampleCrypto "secret" "client")) ∧
      ∃ input response, ∃ frame rest, readFrame input = .ok (frame, rest) ∧
        frame.type = frameAuthResponse ∧
        sampleAuthCodec.unmarshalResponse frame.payload = .ok response ∧ response.version = 2 ∧
        response.response = sampleCrypto.hmac sampleVerifier.hash (label ++ sampleNonce) := by
  have hfits : Fits sampleAuthCodec sampleCrypto sampleVerifier "secret" "client" sampleNonce :=
    ⟨by decide +kernel, by decide +kernel, by decide +kernel⟩
  obtain ⟨hagrees, hsound⟩ :=
    handshake_agrees sampleAuthCodec sampleCrypto sampleVerifier "" sampleNonce
  constructor
  · refine (hagrees "secret" "client" (by decide) hfits).imp ?_
    rintro s ⟨response, err, err', hleft, hright, hagree, hiff, hrole⟩
    obtain rfl : err = none := hiff.2 ⟨by decide +kernel, by decide +kernel, by decide +kernel⟩
    obtain rfl : err' = none := hagree.1 rfl
    exact ⟨response, hleft, hright, hrole rfl⟩
  · -- the peer sends the client's answer
    have hreturns := @returns_of_accepts _ _ _ _ _ "" _ hfits (by decide) (by decide +kernel)
      (by decide +kernel)
    exact ⟨_, _, hsound _ _ hreturns⟩

end LnProxy.Auth
