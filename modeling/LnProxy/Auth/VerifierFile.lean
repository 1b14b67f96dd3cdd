import LnProxy.Auth.Handshake

set_option autoImplicit false

/-! # Verifier files (`LoadVerifier`, `Verify`)

A server reads its verifier from a JSON file with the salt and the hash in base64. `LoadVerifier`
checks the version, the length of the salt and that of the hash, and takes the parameters as they
are; `Verify` derives with them, and replaces all three when the memory is zero. The handshake is
stricter: the client, and the server after it, run the challenge through `decodeChallenge`, which
has a range for each parameter. So there are files that load, under which `Verify` says yes, and
under which nobody can authenticate. -/

namespace LnProxy.Auth

open Protocol Dialogue

/-! ## Base64 (`base64.RawStdEncoding`) -/

/-- The six bits a character stands for. -/
def base64Value (c : Char) : Option Nat :=
  if 'A' ≤ c ∧ c ≤ 'Z' then some (c.toNat - 'A'.toNat)
  else if 'a' ≤ c ∧ c ≤ 'z' then some (c.toNat - 'a'.toNat + 26)
  else if '0' ≤ c ∧ c ≤ '9' then some (c.toNat - '0'.toNat + 52)
  else if c = '+' then some 62
  else if c = '/' then some 63
  else none

/-- `base64.CorruptInputError` -/
def corruptInput (offset : Nat) : String := "illegal base64 data at input byte " ++ toString offset

/-- Decode from `offset` on; `pending` are the values of a quantum that is not complete. Line breaks
    are skipped, there is no padding, and the bits that are left over at the end are dropped. -/
def decodeQuanta : Nat → List Nat → List Char → Except String Bytes
  | _, [], [] => .ok []
  | offset, [_], [] => .error (corruptInput (offset - 1))
  | _, [a, b], [] => .ok [UInt8.ofNat (a * 4 + b / 16)]
  | _, a :: b :: c :: _, [] =>
    .ok [UInt8.ofNat (a * 4 + b / 16), UInt8.ofNat (b % 16 * 16 + c / 4)]
  | offset, pending, c :: text =>
    if c = '\n' ∨ c = '\r' then decodeQuanta (offset + 1) pending text
    else
      match base64Value c with
      | none => .error (corruptInput offset)
      | some d =>
        match pending with
        | [a, b, c] =>
          (decodeQuanta (offset + 1) [] text).map fun bytes =>
            UInt8.ofNat (a * 4 + b / 16) :: UInt8.ofNat (b % 16 * 16 + c / 4) ::
              UInt8.ofNat (c % 4 * 64 + d) :: bytes
        | _ => decodeQuanta (offset + 1) (pending ++ [d]) text

def base64Decode (text : String) : Except String Bytes := decodeQuanta 0 [] text.toList

/-! ## Files -/

structure VerifierFile where
  version : Int
  salt : String
  hash : String
  params : Parameters
  deriving DecidableEq, Repr

/-- `LoadVerifier`; `data` is what `os.ReadFile` returns and `unmarshal` is `json.Unmarshal`. -/
def loadVerifier (unmarshal : Bytes → Except String VerifierFile) (data : Except Err Bytes) :
    Except Err Verifier :=
  match data with
  | .error err => .error err
  | .ok data =>
    match unmarshal data with
    | .error cause => .error (.message ("parse verifier: " ++ cause))
    | .ok encoded =>
      if encoded.version ≠ 1 then
        .error (.message ("unsupported verifier version " ++ toString encoded.version))
      else
        match base64Decode encoded.salt with
        | .error cause => .error (.message ("decode salt: " ++ cause))
        | .ok salt =>
          match base64Decode encoded.hash with
          | .error cause => .error (.message ("decode hash: " ++ cause))
          | .ok hash =>
            if salt.length < 8 ∨ hash.length ≠ keyLength.toNat then
              .error (.message "invalid verifier file")
            else .ok ⟨salt, hash, encoded.params⟩

/-- `argon2.IDKey` panics without a round or without a thread. -/
def Parameters.panics (params : Parameters) : Bool :=
  decide (params.memory ≠ 0) && (decide (params.iterations < 1) || decide (params.parallelism < 1))

/-- `Verify`; `none` when it panics. -/
def Verifier.verify (crypto : Crypto) (verifier : Verifier) (passphrase : String) : Option Bool :=
  if verifier.params.panics then none
  else some (decide (derive crypto passphrase verifier.salt verifier.params = verifier.hash))

/-- The parameters are in the ranges of `decodeChallenge`. -/
def Parameters.usable (params : Parameters) : Prop :=
  1 ≤ params.iterations ∧ params.iterations ≤ 10 ∧
    8 * 1024 ≤ params.memory ∧ params.memory ≤ 1024 * 1024 ∧
    1 ≤ params.parallelism ∧ params.parallelism ≤ 16

instance (params : Parameters) : Decidable params.usable := inferInstanceAs (Decidable (_ ∧ _))

variable {json : AuthCodec} {crypto : Crypto} {verifier : Verifier}
variable {passphrase role roleLimit : String} {nonce : Bytes}
variable {unmarshal : Bytes → Except String VerifierFile} {data : Except Err Bytes}

theorem salt_of_loadVerifier (h : loadVerifier unmarshal data = .ok verifier) :
    8 ≤ verifier.salt.length := by
  unfold loadVerifier at h
  split at h
  · cases h
  · split at h
    · cases h
    · split at h
      · cases h
      · split at h
        · cases h
        · split at h
          · cases h
          · split at h
            · cases h
            · next hlengths =>
              cases h
              exact Nat.le_of_not_lt fun hshort => hlengths (.inl hshort)

theorem acceptable_iff_usable (h : loadVerifier unmarshal data = .ok verifier) :
    verifier.acceptable ↔ verifier.params.usable :=
  and_iff_right (salt_of_loadVerifier h)

theorem hash_of_verify (h : verifier.verify crypto passphrase = some true) :
    derive crypto passphrase verifier.salt verifier.params = verifier.hash := by
  unfold Verifier.verify at h
  split at h
  · cases h
  · simpa using h

/-! ## The handshake under a loaded verifier -/

/-- Both programs have returned, and both successfully or both with an error. -/
def Ended (success : Prop) (s : Handshake) : Prop :=
  ∃ response err err', s.left = .ret (response, err) ∧ s.right = .ret err' ∧
    (err = none ↔ success) ∧ (err' = none ↔ success)

/-- A challenge that does not fit in a frame is not sent. The server hangs up and so does the client. -/
theorem settles_of_oversized
    (h : maxFrameSize < (json.marshalChallenge (challengeFor verifier nonce)).length) :
    Transition.Settles handshake (Ended False)
      (start (serverHandshake json crypto verifier roleLimit (.ok nonce))
        (clientHandshakePassword json crypto passphrase role)) := by
  simp only [start, serverHandshake, makeChallenge, Except.map, send, writeFrame, if_pos h,
    clientHandshakePassword]
  refine settles_right (Program.waits_ret _ _ _) rfl rfl (settles_ret ?_)
  exact ⟨_, _, _, rfl, rfl, by simp, by simp⟩

/-- **Which verifier files are usable.** Under a verifier that `LoadVerifier` accepts and `Verify`
    says yes with, the handshake ends whatever the order of the steps, and both sides succeed exactly
    if the parameters are in the ranges of the challenge and the challenge fits in a frame. -/
theorem loaded_usable_iff (hload : loadVerifier unmarshal data = .ok verifier)
    (hverify : verifier.verify crypto passphrase = some true) (hnonce : nonce.length = 32)
    (hadmits : admits roleLimit role)
    (hresponse : (json.marshalResponse
      (answerTo crypto passphrase role (challengeFor verifier nonce))).length ≤ maxFrameSize)
    (hresult : ∀ ok, (json.marshalResult (resultFor ok)).length ≤ maxFrameSize) :
    Transition.Settles handshake
      (Ended (verifier.params.usable ∧
        (json.marshalChallenge (challengeFor verifier nonce)).length ≤ maxFrameSize))
      (start (serverHandshake json crypto verifier roleLimit (.ok nonce))
        (clientHandshakePassword json crypto passphrase role)) := by
  by_cases hchallenge :
      (json.marshalChallenge (challengeFor verifier nonce)).length ≤ maxFrameSize
  · have hfits : Fits json crypto verifier passphrase role nonce :=
      ⟨hchallenge, hresponse, hresult⟩
    have haccepts : accepts crypto verifier roleLimit passphrase role nonce = true := by
      rw [accepts_eq_true, hash_of_verify hverify]
      exact ⟨hadmits, rfl⟩
    by_cases hacceptable : verifier.acceptable
    · refine (settles_of_acceptable hfits hnonce hacceptable).imp ?_
      rintro s ⟨hleft, err', hright, hagree⟩
      have husable := (acceptable_iff_usable hload).1 hacceptable
      rw [haccepts, if_pos rfl] at hleft hagree
      exact ⟨_, _, err', hleft, hright, by simp [husable, hchallenge],
        by simp [← hagree, husable, hchallenge]⟩
    · refine (settles_of_not_acceptable hfits hnonce hacceptable).imp ?_
      rintro s ⟨hleft, err', hright, hagree⟩
      have husable := mt (acceptable_iff_usable hload).2 hacceptable
      exact ⟨_, _, err', hleft, hright, by simp [husable], by simp [← hagree, husable]⟩
  · refine (settles_of_oversized (Nat.lt_of_not_le hchallenge)).imp ?_
    rintro s ⟨response, err, err', hleft, hright, hserver, hclient⟩
    exact ⟨response, err, err', hleft, hright, by simp [hserver, hchallenge],
      by simp [hclient, hchallenge]⟩

/-! ## Two files -/

/-- A stand-in for `encoding/json`: the fields of a file one after another. -/
def sampleUnmarshal (data : Bytes) : Except String VerifierFile :=
  match getFields 6 data with
  | [version, salt, hash, memory, iterations, parallelism] =>
    .ok ⟨getInt version, textOf salt, textOf hash,
      ⟨UInt32.ofNat (BigEndian.ofBytes memory), UInt32.ofNat (BigEndian.ofBytes iterations),
        parallelism.headD 0⟩⟩
  | _ => .error "verifier"

/-- The file of a verifier for `correct horse battery st` with three rounds, two threads and the
    given memory; under the toy derivation the hash is the passphrase and the salt. -/
def sampleFile (memory : Nat) : Bytes :=
  [putInt 1, bytesOf "AQIDBAUGBwg", bytesOf "Y29ycmVjdCBob3JzZSBiYXR0ZXJ5IHN0AQIDBAUGBwg",
    BigEndian.toBytes 4 memory, BigEndian.toBytes 4 3, [2]].flatMap putField

def loadedVerifier (memory : UInt32) : Verifier :=
  let salt := [1, 2, 3, 4, 5, 6, 7, 8]
  ⟨salt, bytesOf "correct horse battery st" ++ salt, ⟨memory, 3, 2⟩⟩

theorem defaultFile_usable :
    loadVerifier sampleUnmarshal (.ok (sampleFile 65536)) = .ok (loadedVerifier 65536) ∧
      Transition.Settles handshake
        (fun s => ∃ response, s.left = .ret (response, none) ∧ s.right = .ret none)
        (start (serverHandshake sampleAuthCodec sampleCrypto (loadedVerifier 65536) ""
            (.ok sampleNonce))
          (clientHandshakePassword sampleAuthCodec sampleCrypto "correct horse battery st"
            "client")) := by
  have hload : loadVerifier sampleUnmarshal (.ok (sampleFile 65536)) = .ok (loadedVerifier 65536) := by
    decide +kernel
  refine ⟨hload, ?_⟩
  have hsettles := @loaded_usable_iff sampleAuthCodec sampleCrypto _ "correct horse battery st"
    "client" "" sampleNonce _ _ hload (by decide +kernel) (by decide) (by decide) (by decide +kernel)
    (by decide +kernel)
  refine hsettles.imp ?_
  rintro s ⟨response, err, err', hleft, hright, hserver, hclient⟩
  obtain rfl : err = none := hserver.2 (by decide +kernel)
  obtain rfl : err' = none := hclient.2 (by decide +kernel)
  exact ⟨response, hleft, hright⟩

/-- Four mebibytes of memory: the file loads and `Verify` says yes, and both sides fail. -/
theorem smallMemory_not_usable :
    loadVerifier sampleUnmarshal (.ok (sampleFile 4096)) = .ok (loadedVerifier 4096) ∧
      (loadedVerifier 4096).verify sampleCrypto "correct horse battery st" = some true ∧
      Transition.Settles handshake
        (fun s => ∃ response err err', s.left = .ret (response, some err) ∧ s.right = .ret (some err'))
        (start (serverHandshake sampleAuthCodec sampleCrypto (loadedVerifier 4096) ""
            (.ok sampleNonce))
          (clientHandshakePassword sampleAuthCodec sampleCrypto "correct horse battery st"
            "client")) := by
  have hfits : Fits sampleAuthCodec sampleCrypto (loadedVerifier 4096) "correct horse battery st"
      "client" sampleNonce := ⟨by decide +kernel, by decide +kernel, by decide +kernel⟩
  have hacceptable : ¬ (loadedVerifier 4096).acceptable := by decide
  refine ⟨by decide +kernel, by decide +kernel, ?_⟩
  refine (settles_of_not_acceptable hfits (by decide) hacceptable).imp ?_
  rintro s ⟨hleft, err', hright, hagree⟩
  cases err' with
  | none => simp at hagree
  | some err' => exact ⟨_, _, err', hleft, hright⟩

end LnProxy.Auth
