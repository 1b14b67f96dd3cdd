import LnProxy.Auth.VerifierFile
import LnProxy.Config.Initialize

set_option autoImplicit false

/-! # From the passphrase to the handshake (`Verifier.Save`, `LoadVerifier`)

`Initialize` asks for a passphrase and saves its verifier, with the salt and the hash in base64. A server
that is started later loads the verifier from this file and admits whoever proves the passphrase. What
lies between is a file format: encoding, decoding and the checks of `LoadVerifier`. -/

namespace LnProxy.Auth

open Protocol Dialogue

/-! ## Base64 (`base64.RawStdEncoding`) -/

/-- The character of six bits. -/
def base64Digit (n : Nat) : Char :=
  Char.ofNat (if n < 26 then 'A'.toNat + n
    else if n < 52 then 'a'.toNat + (n - 26)
    else if n < 62 then '0'.toNat + (n - 52)
    else if n = 62 then '+'.toNat else '/'.toNat)

/-- `EncodeToString`: four characters for three bytes, and no padding behind the last ones. -/
def base64Encode : Bytes → List Char
  | [] => []
  | [a] => [base64Digit (a.toNat / 4), base64Digit (a.toNat % 4 * 16)]
  | [a, b] =>
    [base64Digit (a.toNat / 4), base64Digit (a.toNat % 4 * 16 + b.toNat / 16),
      base64Digit (b.toNat % 16 * 4)]
  | a :: b :: c :: rest =>
    base64Digit (a.toNat / 4) :: base64Digit (a.toNat % 4 * 16 + b.toNat / 16) ::
      base64Digit (b.toNat % 16 * 4 + c.toNat / 64) :: base64Digit (c.toNat % 64) ::
        base64Encode rest

theorem base64Digit_spec {n : Nat} (h : n < 64) :
    base64Value (base64Digit n) = some n ∧ base64Digit n ≠ '\n' ∧ base64Digit n ≠ '\r' := by
  have hall : ∀ i : Fin 64, base64Value (base64Digit i) = some i.val ∧ base64Digit i ≠ '\n' ∧
      base64Digit i ≠ '\r' := by decide
  exact hall ⟨n, h⟩

/-- A digit that does not complete a quantum is kept. -/
theorem decodeQuanta_keep {offset n : Nat} {pending : List Nat} {text : List Char} (h : n < 64)
    (hpending : pending.length < 3) :
    decodeQuanta offset pending (base64Digit n :: text) =
      decodeQuanta (offset + 1) (pending ++ [n]) text := by
  obtain ⟨hvalue, hlf, hcr⟩ := base64Digit_spec h
  have hbreak : ¬ (base64Digit n = '\n' ∨ base64Digit n = '\r') := not_or.2 ⟨hlf, hcr⟩
  rcases pending with _ | ⟨a, _ | ⟨b, _ | ⟨c, pending⟩⟩⟩
  · simp only [decodeQuanta, if_neg hbreak, hvalue]
  · simp only [decodeQuanta, if_neg hbreak, hvalue]
  · simp only [decodeQuanta, if_neg hbreak, hvalue]
  · simp only [List.length_cons] at hpending
    omega

/-- The fourth digit gives three bytes. -/
theorem decodeQuanta_close {offset a b c d : Nat} {text : List Char} (h : d < 64) :
    decodeQuanta offset [a, b, c] (base64Digit d :: text) =
      (decodeQuanta (offset + 1) [] text).map fun bytes =>
        UInt8.ofNat (a * 4 + b / 16) :: UInt8.ofNat (b % 16 * 16 + c / 4) ::
          UInt8.ofNat (c % 4 * 64 + d) :: bytes := by
  obtain ⟨hvalue, hlf, hcr⟩ := base64Digit_spec h
  have hbreak : ¬ (base64Digit d = '\n' ∨ base64Digit d = '\r') := not_or.2 ⟨hlf, hcr⟩
  simp only [decodeQuanta, if_neg hbreak, hvalue]

theorem ofNat_of_eq {a : UInt8} {n : Nat} (h : n = a.toNat) : UInt8.ofNat n = a := by
  rw [h, UInt8.ofNat_toNat]

/-- **Base64 is decoded to what was encoded.** -/
theorem decodeQuanta_base64Encode (bytes : Bytes) (offset : Nat) :
    decodeQuanta offset [] (base64Encode bytes) = .ok bytes := by
  induction bytes using base64Encode.induct generalizing offset with
  | case1 => rfl
  | case2 a =>
    have ha := a.toNat_lt
    rw [base64Encode, decodeQuanta_keep (by omega) (by simp),
      decodeQuanta_keep (by omega) (by simp)]
    simp only [List.nil_append, List.cons_append, decodeQuanta]
    rw [ofNat_of_eq (a := a) (by omega)]
  | case3 a b =>
    have ha := a.toNat_lt
    have hb := b.toNat_lt
    rw [base64Encode, decodeQuanta_keep (by omega) (by simp),
      decodeQuanta_keep (by omega) (by simp), decodeQuanta_keep (by omega) (by simp)]
    simp only [List.nil_append, List.cons_append, decodeQuanta]
    rw [ofNat_of_eq (a := a) (by omega), ofNat_of_eq (a := b) (by omega)]
  | case4 a b c rest ih =>
    have ha := a.toNat_lt
    have hb := b.toNat_lt
    have hc := c.toNat_lt
    rw [base64Encode, decodeQuanta_keep (by omega) (by simp),
      decodeQuanta_keep (by omega) (by simp), decodeQuanta_keep (by omega) (by simp)]
    simp only [List.nil_append, List.cons_append]
    rw [decodeQuanta_close (by omega), ih, Except.map]
    rw [ofNat_of_eq (a := a) (by omega), ofNat_of_eq (a := b) (by omega),
      ofNat_of_eq (a := c) (by omega)]

/-! ## The file of a verifier -/

/-- `encoding/json` on verifier files. -/
structure VerifierJSON where
  marshalIndent : VerifierFile → Bytes
  unmarshal : Bytes → Except String VerifierFile
  roundtrip : ∀ salt hash params, unmarshal (marshalIndent ⟨1, salt, hash, params⟩ ++ [10]) =
    .ok ⟨1, salt, hash, params⟩

/-- What `Save` marshals. -/
def Verifier.encoded (verifier : Verifier) : VerifierFile :=
  ⟨1, String.ofList (base64Encode verifier.salt), String.ofList (base64Encode verifier.hash),
    verifier.params⟩

theorem base64Decode_base64Encode (bytes : Bytes) :
    base64Decode (String.ofList (base64Encode bytes)) = .ok bytes := by
  rw [base64Decode, String.toList_ofList, decodeQuanta_base64Encode]

/-- **A saved verifier is loaded as it was**, if it has the lengths that are asked for. -/
theorem loadVerifier_encoded (json : VerifierJSON) {verifier : Verifier}
    (hsalt : 8 ≤ verifier.salt.length) (hhash : verifier.hash.length = keyLength.toNat) :
    loadVerifier json.unmarshal (.ok (json.marshalIndent verifier.encoded ++ [10])) = .ok verifier := by
  have hlengths : ¬ (verifier.salt.length < 8 ∨ verifier.hash.length ≠ keyLength.toNat) := by
    rw [not_or, Nat.not_lt, not_not]
    exact ⟨hsalt, hhash⟩
  simp only [loadVerifier, Verifier.encoded, json.roundtrip, ne_eq, not_true_eq_false, if_false,
    base64Decode_base64Encode, if_neg hlengths]

end LnProxy.Auth

namespace LnProxy.Config

open Files Protocol Dialogue

/-! ## The handshake after `Initialize` -/

/-- How `Initialize` encodes what it saves. -/
def savedWith (json : Auth.VerifierJSON) (crypto : Auth.Crypto) (node : NodeJSON) : Encoding :=
  ⟨crypto, fun verifier => json.marshalIndent verifier.encoded, node⟩

/-- `argon2.IDKey` returns as many bytes as it is asked for. -/
def KeyLength (crypto : Auth.Crypto) : Prop :=
  ∀ passphrase salt iterations memory parallelism,
    (crypto.idKey passphrase salt iterations memory parallelism Auth.keyLength).length =
      Auth.keyLength.toNat

variable {json : Auth.VerifierJSON} {crypto : Auth.Crypto} {node : NodeJSON}
variable {passphrase role : String} {nonce typed salt : Bytes}

theorem acceptable_verifierOf (typed : Bytes) (hsalt : salt.length = 16) :
    (verifierOf crypto typed salt).acceptable := by
  have husable : Auth.defaultParameters.usable := by decide
  refine ⟨?_, husable⟩
  rw [verifierOf, hsalt]
  decide

/-- What the client proves with a passphrase. -/
def proofOf (crypto : Auth.Crypto) (passphrase salt nonce : Bytes) : Bytes :=
  crypto.hmac (verifierOf crypto passphrase salt).hash (Auth.label ++ nonce)

/-- Under the verifier of a passphrase, both sides succeed if the client has the same proof, and fail if
    it has not. -/
theorem settles_verifierOf {codec : Auth.AuthCodec} (hsalt : salt.length = 16)
    (hnonce : nonce.length = 32)
    (hfits : Auth.Fits codec crypto (verifierOf crypto typed salt) passphrase role nonce) :
    Transition.Settles Auth.handshake
      (Auth.Ended (proofOf crypto (Auth.bytesOf passphrase) salt nonce =
        proofOf crypto typed salt nonce))
      (start (Auth.serverHandshake codec crypto (verifierOf crypto typed salt) "" (.ok nonce))
        (Auth.clientHandshakePassword codec crypto passphrase role)) := by
  have haccepts : Auth.accepts crypto (verifierOf crypto typed salt) "" passphrase role nonce = true ↔
      proofOf crypto (Auth.bytesOf passphrase) salt nonce = proofOf crypto typed salt nonce := by
    rw [Auth.accepts_eq_true]
    exact and_iff_right (Or.inl rfl)
  refine (Auth.settles_of_acceptable hfits hnonce (acceptable_verifierOf typed hsalt)).imp ?_
  rintro s ⟨hleft, err', hright, hagree⟩
  refine ⟨_, _, err', hleft, hright, ?_, ?_⟩
  · rw [← haccepts]
    simp
  · rw [← hagree, ← haccepts]
    simp

section Initialised

variable {Loc : Type} [DecidableEq Loc] {paths : Paths.System Loc} {env : Env}
variable {cfg : Node} {configPath : Bytes} {inputs : Inputs}
variable {m m' : Machine Unit Loc Entry String}

/-- **The passphrase of the initialisation is the one that is asked for.** Let `Initialize` succeed
    with files that are `Distinct`, for any role, on any tree and however its operations go. Then
    `LoadVerifier` accepts the file it has saved, and a server with the verifier that is loaded runs
    the handshake with every client, in any order of the steps, to the same end on both sides: success
    if the client's proof is that of the passphrase that was typed, and otherwise failure. -/
theorem initialised_authenticates (hdistinct : Distinct paths cfg configPath)
    (hkey : KeyLength crypto) (hsalt : inputs.salt.length = 16)
    (hrun : initializeNode paths env (savedWith json crypto node) cfg configPath inputs m =
      .ok () m') :
    ∃ typed data verifier, promptPassphrase inputs.terminal true = .ok typed ∧
      m'.disk (paths.locate cfg.verifierFile) = some (.file data) ∧
      Auth.loadVerifier json.unmarshal (.ok data) = .ok verifier ∧
      ∀ codec passphrase role nonce, nonce.length = 32 →
        Auth.Fits codec crypto verifier passphrase role nonce →
        Transition.Settles Auth.handshake
          (Auth.Ended (proofOf crypto (Auth.bytesOf passphrase) inputs.salt nonce =
            proofOf crypto typed inputs.salt nonce))
          (start (Auth.serverHandshake codec crypto verifier "" (.ok nonce))
            (Auth.clientHandshakePassword codec crypto passphrase role)) := by
  have hcomplete := Triple.of_ok (ensures_initializeNode hdistinct) trivial hrun
  obtain ⟨typed, htyped, hdisk⟩ := hcomplete.verifier
  have hload : Auth.loadVerifier json.unmarshal
      (.ok (json.marshalIndent (verifierOf crypto typed inputs.salt).encoded ++ [10])) =
        .ok (verifierOf crypto typed inputs.salt) :=
    Auth.loadVerifier_encoded json (acceptable_verifierOf typed hsalt).1 (hkey _ _ _ _ _)
  exact ⟨typed, _, _, htyped, hdisk, hload, fun codec passphrase role nonce hnonce hfits =>
    settles_verifierOf hsalt hnonce hfits⟩

end Initialised

/-! ## A server in `/d` -/

/-- A stand-in for `encoding/json`: the fields of a file one after another. -/
def sampleVerifierJSON : Auth.VerifierJSON where
  marshalIndent file :=
    [Auth.putInt file.version, Auth.bytesOf file.salt, Auth.bytesOf file.hash,
      BigEndian.toBytes 4 file.params.memory.toNat, BigEndian.toBytes 4 file.params.iterations.toNat,
      [file.params.parallelism]].flatMap Auth.putField
  unmarshal data := Auth.sampleUnmarshal data.dropLast
  roundtrip salt hash params := by
    have hmemory := BigEndian.ofBytes_toBytes 4 params.memory.toNat (by simpa using params.memory.toNat_lt)
    have hiterations := BigEndian.ofBytes_toBytes 4 params.iterations.toNat
      (by simpa using params.iterations.toNat_lt)
    rw [List.dropLast_concat, Auth.sampleUnmarshal, Auth.getFields_putField (n := 6) rfl]
    simp only [Auth.getInt_putInt, Auth.textOf_bytesOf, hmemory, hiterations, UInt32.ofNat_toNat,
      List.headD_cons]

def paddedCrypto : Auth.Crypto where
  idKey passphrase _ _ _ _ size := (passphrase ++ List.replicate size.toNat 0).take size.toNat
  hmac key message := key ++ message

theorem paddedCrypto_keyLength : KeyLength paddedCrypto := by
  intro passphrase salt iterations memory parallelism
  simp only [paddedCrypto, List.length_take, List.length_append, List.length_replicate]
  omega

def saltedInputs : Inputs := { sampleInputs with salt := List.replicate 16 7 }

def sampleSaved : Encoding := savedWith sampleVerifierJSON paddedCrypto sampleNodeJSON

/-- The verifier of `secret`. -/
def savedVerifier : Auth.Verifier := verifierOf paddedCrypto (ascii "secret") saltedInputs.salt

theorem sampleNode_authenticates :
    ∃ m' data,
      initializeNode samplePaths sampleEnv sampleSaved sampleNode [] saltedInputs
        ⟨⟨(), fun _ => none⟩, []⟩ = .ok () m' ∧
      m'.disk (samplePaths.locate sampleNode.verifierFile) = some (.file data) ∧
      Auth.loadVerifier sampleVerifierJSON.unmarshal (.ok data) = .ok savedVerifier ∧
      Transition.Settles Auth.handshake
        (fun s => ∃ response, s.left = .ret (response, none) ∧ s.right = .ret none)
        (start (Auth.serverHandshake Auth.sampleAuthCodec paddedCrypto savedVerifier ""
            (.ok Auth.sampleNonce))
          (Auth.clientHandshakePassword Auth.sampleAuthCodec paddedCrypto "secret" "client")) := by
  obtain ⟨m', hrun, hsaved⟩ : ∃ m', initializeNode samplePaths sampleEnv sampleSaved sampleNode []
      saltedInputs ⟨⟨(), fun _ => none⟩, []⟩ = .ok () m' ∧
      m'.disk (samplePaths.locate sampleNode.verifierFile) =
        some (.file (sampleVerifierJSON.marshalIndent savedVerifier.encoded ++ [10])) := ⟨_, rfl, rfl⟩
  obtain ⟨typed, data, verifier, htyped, hdisk, hload, hall⟩ :=
    initialised_authenticates sample_apart.toDistinct paddedCrypto_keyLength (by decide) hrun
  obtain rfl : ascii "secret" = typed := by
    have heq : promptPassphrase saltedInputs.terminal true = .ok (ascii "secret") := rfl
    exact Except.ok.inj (heq.symm.trans htyped)
  have hloaded : Auth.loadVerifier sampleVerifierJSON.unmarshal (.ok data) = .ok savedVerifier := by
    rw [hsaved] at hdisk
    cases hdisk
    exact Auth.loadVerifier_encoded sampleVerifierJSON (by decide) (by decide)
  obtain rfl : verifier = savedVerifier := Except.ok.inj (hload.symm.trans hloaded)
  have hfits : Auth.Fits Auth.sampleAuthCodec paddedCrypto savedVerifier "secret" "client"
      Auth.sampleNonce := ⟨by decide +kernel, by decide +kernel, by decide +kernel⟩
  have hproof : Auth.bytesOf "secret" = ascii "secret" := by decide +kernel
  refine ⟨m', data, hrun, hdisk, hloaded, ?_⟩
  refine (hall Auth.sampleAuthCodec "secret" "client" Auth.sampleNonce (by decide) hfits).imp ?_
  rintro s ⟨response, err, err', hleft, hright, hserver, hclient⟩
  obtain rfl : err = none := hserver.2 (by rw [hproof])
  obtain rfl : err' = none := hclient.2 (by rw [hproof])
  exact ⟨response, hleft, hright⟩

end LnProxy.Config
