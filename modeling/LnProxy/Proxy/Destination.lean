import LnProxy.Proxy.SOCKS5
import LnProxy.Session.Step

set_option autoImplicit false

/-! # The way of a destination

The destination of a SOCKS5 request goes from `readRequest` through `managerDialer.Dial` and
`Session.Open` of the client to the server, and from there, if an exit was selected, through
`forwardOpen` and another `Session.Open` to the exit. Each hop encodes the request as JSON, which
knows only text: a Go string that is not valid UTF-8 arrives with the replacement character in the
place of each bad byte. The rest of the way changes neither host nor port, so the destination that is
dialed is the one that was asked for exactly if it is valid UTF-8, as all addresses are. -/

namespace LnProxy

open Protocol SOCKS5

/-! ## Requests with Go strings -/

/-- `protocol.OpenRequest` as the client builds it: its strings are any bytes. -/
structure RawRequest where
  requestID : UInt64
  exitID : Bytes
  destination : Bytes
  port : UInt16
  protocol : Bytes
  clientSelected : Bool
  deriving DecidableEq, Repr

/-- The text JSON reads in a Go string. -/
def textOf (bytes : Bytes) : String := String.ofList (UTF8.coerce bytes)

/-- The Go string of a text. -/
def bytesOf (text : String) : Bytes := UTF8.encode text.toList

/-- The request that JSON encodes in place of `raw`. -/
def RawRequest.coerce (raw : RawRequest) : OpenRequest :=
  ⟨raw.requestID, textOf raw.exitID, textOf raw.destination, raw.port, textOf raw.protocol,
    raw.clientSelected⟩

/-- A request that was decoded, as a Go value. -/
def Protocol.OpenRequest.raw (request : OpenRequest) : RawRequest :=
  ⟨request.requestID, bytesOf request.exitID, bytesOf request.destination, request.port,
    bytesOf request.protocol, request.clientSelected⟩

/-- `encoding/json` at Go values, as it is documented: strings are coerced, numbers are exact. -/
structure JSON extends Codec where
  marshal : RawRequest → Bytes
  marshalOpen_eq : ∀ request, marshalOpen request = marshal request.raw
  unmarshal_marshal : ∀ raw, unmarshalOpen (marshal raw) = .ok raw.coerce

/-! ## The hops -/

def auto : Bytes := bytesOf "auto"

/-- The requests that `managerDialer.Dial` passes to the manager: the fallback follows a first one
    that has `failed`. -/
def dialRequests (exitID : Bytes) (fallback failed : Bool) (host : Bytes) (port : UInt16) :
    List RawRequest :=
  let request : RawRequest := ⟨0, exitID, host, port, bytesOf protocolTCP, false⟩
  if failed ∧ fallback ∧ exitID ≠ auto then [request, { request with exitID := auto }]
  else [request]

/-- The request that `Session.Open` of the client sends. -/
def RawRequest.opened (s : Session) (raw : RawRequest) : RawRequest :=
  { raw with
    requestID := if raw.requestID = 0 then s.nextID + 1 else raw.requestID,
    protocol := if raw.protocol = [] then bytesOf protocolTCP else raw.protocol }

def RawRequest.frame (json : JSON) (raw : RawRequest) : Frame :=
  ⟨frameOpen, raw.requestID, json.marshal raw⟩

/-- The request that the peer decodes from a frame on the wire. -/
def received (json : JSON) (frame : Frame) : Option OpenRequest :=
  match writeFrame frame with
  | .error _ => none
  | .ok bytes =>
    match readFrame bytes with
    | .error _ => none
    | .ok (frame, _) => (decodeOpen json.toCodec frame).toOption

/-- The arguments of `DialDestination`. -/
def Protocol.OpenRequest.target (request : OpenRequest) : Bytes × UInt16 :=
  (bytesOf request.destination, request.port)

/-- How `forwardOpen` routes a request: to its own destination, or over the session of an exit. -/
inductive Hop where
  | direct
  | exit (session : Session)

/-- The destination that is dialed for a request of the client, if the request gets that far. -/
def reached (json : JSON) (client : Session) (hop : Hop) (raw : RawRequest) :
    Option (Bytes × UInt16) :=
  match received json ((raw.opened client).frame json) with
  | none => none
  | some request =>
    match hop with
    | .direct => some request.target
    | .exit session =>
      (received json (openFrame json.toCodec (session.openRequest request))).map
        OpenRequest.target

/-! ## What each hop keeps -/

theorem bytesOf_textOf (bytes : Bytes) : bytesOf (textOf bytes) = UTF8.encode (UTF8.coerce bytes) := by
  unfold bytesOf textOf
  rw [String.toList_ofList]

theorem textOf_bytesOf (text : String) : textOf (bytesOf text) = text := by
  unfold bytesOf textOf
  rw [UTF8.coerce_encode, String.ofList_toList]

theorem OpenRequest.coerce_raw (request : OpenRequest) : request.raw.coerce = request := by
  simp only [OpenRequest.raw, RawRequest.coerce, textOf_bytesOf]

/-- What was decoded once is decoded exactly. -/
theorem JSON.unmarshalOpen_marshalOpen (json : JSON) (request : OpenRequest) :
    json.unmarshalOpen (json.marshalOpen request) = .ok request := by
  rw [json.marshalOpen_eq, json.unmarshal_marshal, OpenRequest.coerce_raw]

theorem decodeOpen_target {json : Codec} {frame : Frame} {decoded request : OpenRequest}
    (hdecoded : json.unmarshalOpen frame.payload = .ok decoded)
    (h : decodeOpen json frame = .ok request) : request.target = decoded.target := by
  unfold decodeOpen at h
  rw [hdecoded] at h
  dsimp only at h
  split at h
  · cases h
  · split at h
    · cases h
    · cases h
      rfl

/-- The wire carries the frame as it is. -/
theorem received_eq_some {json : JSON} {frame : Frame} {request : OpenRequest}
    (h : received json frame = some request) : decodeOpen json.toCodec frame = .ok request := by
  unfold received writeFrame at h
  split at h
  · cases h
  · next bytes hwrite =>
    split at hwrite
    · cases hwrite
    · next hsize =>
      cases hwrite
      have hread := readFrame_encodeFrame frame [] (Nat.le_of_not_lt hsize)
      rw [List.append_nil] at hread
      rw [hread] at h
      dsimp only at h
      cases hdecode : decodeOpen json.toCodec frame with
      | error cause =>
        rw [hdecode] at h
        cases h
      | ok decoded =>
        rw [hdecode] at h
        cases h
        rfl

theorem received_raw {json : JSON} {client : Session} {raw : RawRequest} {request : OpenRequest}
    (h : received json ((raw.opened client).frame json) = some request) :
    request.target = (UTF8.encode (UTF8.coerce raw.destination), raw.port) := by
  have hdecode := received_eq_some h
  rw [decodeOpen_target (json.unmarshal_marshal _) hdecode]
  show (bytesOf (textOf raw.destination), raw.port) = _
  rw [bytesOf_textOf]

theorem received_open {json : JSON} {session : Session} {request request' : OpenRequest}
    (h : received json (openFrame json.toCodec (session.openRequest request)) = some request') :
    request'.target = request.target := by
  have hdecode := received_eq_some h
  rw [decodeOpen_target (json.unmarshalOpen_marshalOpen _) hdecode]
  rfl

/-- All hops together: the host is coerced, the port is kept. -/
theorem reached_eq {json : JSON} {client : Session} {hop : Hop} {raw : RawRequest}
    {destination : Bytes × UInt16} (h : reached json client hop raw = some destination) :
    destination = (UTF8.encode (UTF8.coerce raw.destination), raw.port) := by
  unfold reached at h
  split at h
  · cases h
  · next request hrequest =>
    rw [← received_raw hrequest]
    cases hop with
    | direct => exact (Option.some.inj h).symm
    | exit session =>
      obtain ⟨request', hrequest', rfl⟩ := Option.map_eq_some_iff.1 h
      exact received_open hrequest'

theorem dialRequests_target {exitID host : Bytes} {fallback failed : Bool} {port : UInt16}
    {raw : RawRequest} (h : raw ∈ dialRequests exitID fallback failed host port) :
    raw.destination = host ∧ raw.port = port := by
  unfold dialRequests at h
  dsimp only at h
  split at h
  · simp only [List.mem_cons, List.not_mem_nil, or_false] at h
    rcases h with rfl | rfl <;> exact ⟨rfl, rfl⟩
  · rw [List.mem_singleton] at h
    rw [h]
    exact ⟨rfl, rfl⟩

/-! ## A codec to run the hops with -/

/-- Each character with a mark before it, and the end. -/
def writeText (text : List Char) : Bytes :=
  text.flatMap (fun c => 1 :: BigEndian.toBytes 4 c.toNat) ++ [0]

def readText : Bytes → List Char × Bytes
  | 1 :: a :: b :: c :: d :: rest =>
    let (text, behind) := readText rest
    (Char.ofNat (BigEndian.ofBytes [a, b, c, d]) :: text, behind)
  | _ :: rest => ([], rest)
  | [] => ([], [])

theorem readText_writeText (text : List Char) (rest : Bytes) :
    readText (writeText text ++ rest) = (text, rest) := by
  induction text with
  | nil => rfl
  | cons c text ih =>
    have hlt : c.toNat < 256 ^ 4 := c.val.toNat_lt
    have hbytes := BigEndian.ofBytes_toBytes 4 c.toNat hlt
    have hcons : writeText (c :: text) = 1 :: BigEndian.toBytes 4 c.toNat ++ writeText text := by
      simp [writeText]
    rw [hcons]
    simp only [BigEndian.toBytes, List.nil_append, List.cons_append] at hbytes ⊢
    rw [readText, hbytes, ih, Char.ofNat_toNat]

def writeOpen (request : OpenRequest) : Bytes :=
  BigEndian.toBytes 8 request.requestID.toNat ++ (BigEndian.toBytes 2 request.port.toNat ++
    (if request.clientSelected then 1 else 0) :: (writeText request.exitID.toList ++
      (writeText request.destination.toList ++ (writeText request.protocol.toList ++ []))))

def readOpen (payload : Bytes) : OpenRequest :=
  let (exitID, rest) := readText ((payload.drop 8).drop 2).tail
  let (destination, rest) := readText rest
  let (protocol, _) := readText rest
  ⟨UInt64.ofNat (BigEndian.ofBytes (payload.take 8)), String.ofList exitID,
    String.ofList destination, UInt16.ofNat (BigEndian.ofBytes ((payload.drop 8).take 2)),
    String.ofList protocol, decide (((payload.drop 8).drop 2).head? = some 1)⟩

theorem readOpen_writeOpen (request : OpenRequest) : readOpen (writeOpen request) = request := by
  have hid : request.requestID.toNat < 256 ^ 8 := by simpa using request.requestID.toNat_lt
  have hport : request.port.toNat < 256 ^ 2 := by simpa using request.port.toNat_lt
  unfold readOpen writeOpen
  rw [List.drop_left' (BigEndian.toBytes_length 8 _), List.drop_left' (BigEndian.toBytes_length 2 _),
    List.take_left' (BigEndian.toBytes_length 8 _), List.take_left' (BigEndian.toBytes_length 2 _)]
  simp only [List.tail_cons, List.head?_cons, readText_writeText, BigEndian.ofBytes_toBytes 8 _ hid,
    BigEndian.ofBytes_toBytes 2 _ hport, UInt64.ofNat_toNat, UInt16.ofNat_toNat,
    String.ofList_toList]
  cases hselected : request.clientSelected <;> simp [← hselected]

/-- A stand-in for `encoding/json` that encodes the text of every field. -/
def sampleJSON : JSON :=
  { sampleCodec with
    marshalOpen := writeOpen
    unmarshalOpen := fun payload => .ok (readOpen payload)
    requestID_exact := fun request => ⟨request, by rw [readOpen_writeOpen], rfl⟩
    marshal := fun raw => writeOpen raw.coerce
    marshalOpen_eq := fun request => by rw [OpenRequest.coerce_raw]
    unmarshal_marshal := fun raw => by rw [readOpen_writeOpen] }

/-! ## The result -/

/-- The host of a request is the one behind its header. -/
theorem readRequest_host {input host : Bytes} {port : UInt16}
    (h : readRequest input = .ok (host, port)) : ∃ addressType rest behind,
      input[3]? = some addressType ∧ readHost addressType rest = .ok (host, behind) := by
  simp only [readRequest, bind, Except.bind] at h
  split at h
  · cases h
  · next read hread =>
    have hheader : read.1 = input.take 4 ∧ 4 ≤ input.length := by
      unfold readFull at hread
      split at hread
      · next hlength =>
        cases hread
        exact ⟨rfl, hlength⟩
      · split at hread <;> cases hread
    split at h
    · cases h
    · next header hhost =>
      split at h
      · cases h
      · next found hfound =>
        split at h
        · cases h
        · split at h
          · cases h
          · cases h
            have hthird : input[3]? = some (read.1.getD 3 0) := by
              rw [hheader.1, List.getD_eq_getElem?_getD, List.getElem?_take_of_lt (by decide)]
              rw [List.getElem?_eq_getElem (by omega)]
              rfl
            exact ⟨_, _, _, hthird, hfound⟩

theorem readRequest_valid {input host : Bytes} {port : UInt16}
    (h : readRequest input = .ok (host, port)) (hdomain : input[3]? ≠ some addressDomain) :
    UTF8.Valid host := by
  obtain ⟨addressType, rest, behind, hthird, hhost⟩ := readRequest_host h
  refine readHost_valid hhost ?_
  rintro rfl
  exact hdomain hthird

/-- **The destination arrives as it was asked for exactly if it is text.** For every request that
    `readRequest` accepts, and every request the client makes of it, the destination that is dialed, by
    the server or by an exit, has the host and the port of the request if and only if the host is not a
    domain, or is valid UTF-8. -/
theorem reached_eq_iff (json : JSON) {input host exitID : Bytes} {port : UInt16}
    {fallback failed : Bool} {client : Session} {hop : Hop} {raw : RawRequest}
    {destination : Bytes × UInt16} (hread : readRequest input = .ok (host, port))
    (hraw : raw ∈ dialRequests exitID fallback failed host port)
    (hreached : reached json client hop raw = some destination) :
    destination = (host, port) ↔ (input[3]? = some addressDomain → UTF8.Valid host) := by
  obtain ⟨hhost, hport⟩ := dialRequests_target hraw
  rw [reached_eq hreached, hhost, hport, Prod.mk.injEq, and_iff_left rfl, UTF8.encode_coerce_iff]
  constructor
  · intro hvalid _
    exact hvalid
  · intro h
    by_cases hdomain : input[3]? = some addressDomain
    · exact h hdomain
    · exact readRequest_valid hread hdomain

/-- A request for the domain `example.org` at port 80, behind an exit that the client has named. -/
def domainRequest : Bytes := [5, 1, 0, 3, 11] ++ bytesOf "example.org" ++ [0, 80]

/-- The request of the fallback. -/
def fallbackRequest : RawRequest :=
  ⟨0, auto, bytesOf "example.org", 80, bytesOf protocolTCP, false⟩

theorem domainRequest_reached :
    fallbackRequest ∈ dialRequests (bytesOf "exit-1") true true (bytesOf "example.org") 80 ∧
      reached sampleJSON (Session.new 0) (.exit (Session.new 0)) fallbackRequest =
        some (bytesOf "example.org", 80) := by
  have hraw : fallbackRequest ∈ dialRequests (bytesOf "exit-1") true true (bytesOf "example.org") 80 := by
    decide +kernel
  have hread : readRequest domainRequest = .ok (bytesOf "example.org", 80) := by decide +kernel
  have hsome : reached sampleJSON (Session.new 0) (.exit (Session.new 0)) fallbackRequest ≠ none := by
    decide +kernel
  obtain ⟨destination, hdestination⟩ := Option.ne_none_iff_exists'.1 hsome
  refine ⟨hraw, ?_⟩
  rw [hdestination, Option.some.injEq]
  refine (reached_eq_iff sampleJSON hread hraw hdestination).2 fun _ => ?_
  exact ⟨"example.org".toList, rfl⟩

/-- A request for a domain of one byte that no character begins with. -/
theorem byteDomain_not_reached :
    readRequest [5, 1, 0, 3, 1, 0xff, 0, 80] = .ok ([0xff], 80) ∧
      ∃ raw ∈ dialRequests auto false false [0xff] 80,
        reached sampleJSON (Session.new 0) .direct raw = some ([0xef, 0xbf, 0xbd], 80) ∧
        ([0xef, 0xbf, 0xbd], 80) ≠ (([0xff], 80) : Bytes × UInt16) := by
  decide +kernel

end LnProxy
