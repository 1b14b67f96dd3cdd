import LnProxy.Protocol.Wire
import LnProxy.Proxy.HTTPConnect
import LnProxy.Proxy.SOCKS5

set_option autoImplicit false

/-! # The SOCKS5 handshake (`Server.handle`, `negotiate`, `readRequest`)

The handler reads a greeting and a request off the connection, each part with `io.ReadFull`, and hands
the connection to the relay. It reads what the grammar of the two messages says and not a byte more,
in whatever pieces the bytes arrive. -/

namespace LnProxy.SOCKS5

open Protocol Segments

/-! ## The handler -/

def methodNoAuth : UInt8 := 0
def methodNone : UInt8 := 0xff

/-- What is answered to the methods of a greeting. -/
def answer (methods : Bytes) : Bytes :=
  [version5, if methodNoAuth ∈ methods then methodNoAuth else methodNone]

/-- `negotiate`; `write` is the error with which the connection takes a message. -/
def negotiate (write : Bytes → Option Err) (src : List Bytes) : Except Err (Unit × List Bytes) := do
  let (header, src) ← receiveFull 2 src
  if header.getD 0 0 ≠ version5 ∨ header.getD 1 0 = 0 then
    throw (.message "invalid SOCKS5 greeting")
  let (methods, src) ← receiveFull (header.getD 1 0).toNat src
  let written := write (answer methods)
  -- the error of the other answer is dropped
  if methodNoAuth ∉ methods then
    throw (.message "no supported SOCKS5 authentication method")
  match written with
  | some err => throw err
  | none => return ((), src)

/-- The host of a request with the given address type. -/
def receiveHost (addressType : UInt8) (src : List Bytes) : Except Err (Bytes × List Bytes) :=
  if addressType = addressIPv4 then do
    let (value, src) ← receiveFull 4 src
    return (ipString value, src)
  else if addressType = addressIPv6 then do
    let (value, src) ← receiveFull 16 src
    return (ipString value, src)
  else if addressType = addressDomain then do
    let (length, src) ← receiveFull 1 src
    if length.headD 0 = 0 then throw (.message "empty SOCKS5 destination")
    receiveFull (length.headD 0).toNat src
  else throw (.message "unsupported SOCKS5 address type")

/-- `readRequest` off a connection. -/
def receiveRequest (src : List Bytes) : Except Err ((Bytes × UInt16) × List Bytes) := do
  let (header, src) ← receiveFull 4 src
  if header.take 3 ≠ [version5, commandConnect, 0] then
    throw (.message "unsupported SOCKS5 request")
  let (host, src) ← receiveHost (header.getD 3 0) src
  let (portBytes, src) ← receiveFull 2 src
  let port := UInt16.ofNat (BigEndian.ofBytes portBytes)
  if port = 0 then throw (.message "invalid SOCKS5 destination port")
  return ((host, port), src)

/-- `negotiate` followed by `readRequest`. -/
def handshake (write : Bytes → Option Err) (src : List Bytes) :
    Except Err ((Bytes × UInt16) × List Bytes) := do
  let (_, src) ← negotiate write src
  receiveRequest src

/-- `writeReply` without an address. -/
def replyBytes (status : UInt8) : Bytes := [version5, status, 0, addressIPv4, 0, 0, 0, 0, 0, 0]

/-- How the handling of one connection ends. -/
inductive Handled where
  /-- `negotiate` failed. -/
  | dropped
  /-- The request was answered with this status. -/
  | refused (status : UInt8)
  /-- The answer to an established connection could not be written. -/
  | unanswered
  /-- `Relay` ran; the bytes it copied to the target. -/
  | relayed (host : Bytes) (port : UInt16) (upstream : Bytes)
  deriving DecidableEq

def handle (write : Bytes → Option Err) (dial : Bytes → UInt16 → Bool) (connection : List Bytes) :
    Handled :=
  match negotiate write connection with
  | .error _ => .dropped
  | .ok (_, connection) =>
    match receiveRequest connection with
    | .error _ => .refused 7
    | .ok ((host, port), connection) =>
      if ¬ dial host port then .refused 5
      else if (write (replyBytes 0)).isSome then .unanswered
      else .relayed host port (Proxy.copyUp connection)

/-! ## The grammar -/

/-- A greeting that offers no authentication. -/
structure Greeting where
  methods : Bytes
  length_le : methods.length ≤ 255
  noAuth : methodNoAuth ∈ methods

def Greeting.encode (greeting : Greeting) : Bytes :=
  version5 :: UInt8.ofNat greeting.methods.length :: greeting.methods

inductive Address where
  | ipv4 (value : Bytes) (hlength : value.length = 4)
  | ipv6 (value : Bytes) (hlength : value.length = 16)
  | domain (name : Bytes) (hpos : 1 ≤ name.length) (hmax : name.length ≤ 255)

def Address.encode : Address → Bytes
  | .ipv4 value _ => addressIPv4 :: value
  | .ipv6 value _ => addressIPv6 :: value
  | .domain name _ _ => addressDomain :: UInt8.ofNat name.length :: name

/-- The host that is dialed. -/
def Address.host : Address → Bytes
  | .ipv4 value _ => ipString value
  | .ipv6 value _ => ipString value
  | .domain name _ _ => name

/-- A CONNECT request. -/
structure Connect where
  address : Address
  port : UInt16
  port_ne : port ≠ 0

def Connect.encode (request : Connect) : Bytes :=
  [version5, commandConnect, 0] ++ request.address.encode ++ BigEndian.toBytes 2 request.port.toNat

/-! ## The readers read the grammar -/

theorem reads_receiveFull (n : Nat) :
    Reads (receiveFull n) (fun value text => text = value ∧ value.length = n) := by
  intro src value rest
  have hjoined := receiveFull_flatten n src
  constructor
  · rintro ⟨left, heq, rfl⟩
    rw [heq] at hjoined
    obtain ⟨hsrc, hlength⟩ := readFull_ok hjoined.symm
    exact ⟨value, ⟨rfl, hlength⟩, hsrc⟩
  · rintro ⟨_, ⟨rfl, rfl⟩, hsrc⟩
    rw [hsrc, readFull_append] at hjoined
    exact joined_eq_ok hjoined

/-- The end of `negotiate`, behind the methods. -/
theorem reads_answered (write : Bytes → Option Err) (methods : Bytes) :
    Reads
      (fun src : List Bytes =>
        if methodNoAuth ∉ methods then
          .error (.message "no supported SOCKS5 authentication method")
        else match write (answer methods) with
          | some err => .error err
          | none => .ok ((), src))
      (fun _ text =>
        methodNoAuth ∈ methods ∧ write [version5, methodNoAuth] = none ∧ text = []) := by
  by_cases hno : methodNoAuth ∈ methods
  · have hanswer : answer methods = [version5, methodNoAuth] := by rw [answer, if_pos hno]
    simp only [hno, hanswer, not_true_eq_false, if_false, true_and]
    cases write [version5, methodNoAuth] with
    | some err =>
      refine (reads_error err).congr fun _ text => ?_
      simp
    | none =>
      refine (reads_ok ()).congr fun _ text => ?_
      simp
  · simp only [hno, not_false_eq_true, if_true, false_and]
    exact reads_error _

/-- A greeting is its two first bytes and as many methods as the second says. -/
theorem greeting_iff {text : Bytes} :
    (∃ greeting : Greeting, text = greeting.encode) ↔
      ∃ header methods : Bytes, header.length = 2 ∧
        ¬ (header.getD 0 0 ≠ version5 ∨ header.getD 1 0 = 0) ∧
        methods.length = (header.getD 1 0).toNat ∧ methodNoAuth ∈ methods ∧
        text = header ++ methods := by
  constructor
  · rintro ⟨⟨methods, hle, hno⟩, rfl⟩
    have hlength : (UInt8.ofNat methods.length).toNat = methods.length :=
      UInt8.toNat_ofNat_of_lt (show methods.length < 2 ^ 8 by omega)
    refine ⟨[version5, UInt8.ofNat methods.length], methods, rfl, ?_, hlength.symm, hno, rfl⟩
    rintro (hversion | hzero)
    · exact hversion rfl
    · have hpos : 0 < methods.length := List.length_pos_of_mem hno
      have hzero : UInt8.ofNat methods.length = 0 := hzero
      rw [hzero] at hlength
      exact Nat.ne_of_lt hpos hlength
  · rintro ⟨header, methods, hlength, hvalid, hmethods, hno, rfl⟩
    obtain ⟨version, count, rfl⟩ := List.length_eq_two.1 hlength
    obtain ⟨hversion, -⟩ := not_or.1 hvalid
    obtain rfl : version = version5 := not_not.1 hversion
    have hcount : methods.length = count.toNat := hmethods
    have hlt := count.toNat_lt
    refine ⟨⟨methods, by omega, hno⟩, ?_⟩
    simp [Greeting.encode, hcount]

theorem reads_negotiate (write : Bytes → Option Err) :
    Reads (negotiate write) (fun _ text => write [version5, methodNoAuth] = none ∧
      ∃ greeting : Greeting, text = greeting.encode) := by
  refine Reads.congr (Reads.bind (reads_receiveFull 2) fun header => Reads.guard
    (Reads.bind (reads_receiveFull (header.getD 1 0).toNat) (reads_answered write))
    (header.getD 0 0 ≠ version5 ∨ header.getD 1 0 = 0) (.message "invalid SOCKS5 greeting")) ?_
  intro _ text
  rw [greeting_iff]
  constructor
  · rintro ⟨_, header, _, ⟨rfl, hlength⟩, ⟨hvalid, _, methods, _, ⟨rfl, hmethods⟩,
      ⟨hno, hwrite, rfl⟩, rfl⟩, rfl⟩
    exact ⟨hwrite, header, methods, hlength, hvalid, hmethods, hno, by simp⟩
  · rintro ⟨hwrite, header, methods, hlength, hvalid, hmethods, hno, rfl⟩
    exact ⟨header, header, methods, ⟨rfl, hlength⟩,
      ⟨hvalid, methods, methods, [], ⟨rfl, hmethods⟩, ⟨hno, hwrite, rfl⟩, by simp⟩, rfl⟩

/-- An address of `n` bytes behind its type. -/
theorem reads_value (n : Nat) :
    Reads (fun src => receiveFull n src >>= fun r => .ok (ipString r.1, r.2))
      (fun host text => text.length = n ∧ host = ipString text) := by
  refine Reads.congr (Reads.bind (reads_receiveFull n) fun value => reads_ok (ipString value)) ?_
  intro host text
  constructor
  · rintro ⟨_, value, _, ⟨rfl, hlength⟩, ⟨rfl, rfl⟩, rfl⟩
    rw [List.append_nil]
    exact ⟨hlength, rfl⟩
  · rintro ⟨hlength, rfl⟩
    exact ⟨text, text, [], ⟨rfl, hlength⟩, ⟨rfl, rfl⟩, (List.append_nil _).symm⟩

theorem reads_domain :
    Reads
      (fun src => receiveFull 1 src >>= fun r =>
        if r.1.headD 0 = 0 then .error (.message "empty SOCKS5 destination")
        else receiveFull (r.1.headD 0).toNat r.2)
      (fun host text => (1 ≤ host.length ∧ host.length ≤ 255) ∧
        text = UInt8.ofNat host.length :: host) := by
  refine Reads.congr (Reads.bind (reads_receiveFull 1) fun length =>
    Reads.guard (reads_receiveFull (length.headD 0).toNat) (length.headD 0 = 0)
      (.message "empty SOCKS5 destination")) ?_
  intro host text
  constructor
  · rintro ⟨_, length, name, ⟨rfl, hlength⟩, ⟨hne, rfl, hhost⟩, rfl⟩
    obtain ⟨count, rfl⟩ := List.length_eq_one_iff.1 hlength
    have hhost : name.length = count.toNat := hhost
    have hpos : count.toNat ≠ 0 := fun h => hne (UInt8.toNat_inj.1 h)
    have hlt := count.toNat_lt
    refine ⟨⟨by omega, by omega⟩, ?_⟩
    rw [hhost, UInt8.ofNat_toNat, List.singleton_append]
  · rintro ⟨⟨hpos, hmax⟩, rfl⟩
    have hlength : (UInt8.ofNat host.length).toNat = host.length :=
      UInt8.toNat_ofNat_of_lt (show host.length < 2 ^ 8 by omega)
    refine ⟨_, [UInt8.ofNat host.length], host, ⟨rfl, rfl⟩, ⟨?_, rfl, hlength.symm⟩, rfl⟩
    intro hzero
    have hzero : UInt8.ofNat host.length = 0 := hzero
    rw [hzero] at hlength
    exact Nat.ne_of_lt hpos hlength

/-- The addresses of each type. -/
theorem exists_address_iff {addressType : UInt8} {host text : Bytes} :
    (∃ address : Address, address.encode = addressType :: text ∧ host = address.host) ↔
      addressType = addressIPv4 ∧ text.length = 4 ∧ host = ipString text ∨
      addressType = addressIPv6 ∧ text.length = 16 ∧ host = ipString text ∨
      addressType = addressDomain ∧ (1 ≤ host.length ∧ host.length ≤ 255) ∧
        text = UInt8.ofNat host.length :: host := by
  constructor
  · rintro ⟨address, heq, rfl⟩
    cases address with
    | ipv4 value hlength =>
      obtain ⟨rfl, rfl⟩ := List.cons.inj heq
      exact .inl ⟨rfl, hlength, rfl⟩
    | ipv6 value hlength =>
      obtain ⟨rfl, rfl⟩ := List.cons.inj heq
      exact .inr (.inl ⟨rfl, hlength, rfl⟩)
    | domain name hpos hmax =>
      obtain ⟨rfl, rfl⟩ := List.cons.inj heq
      exact .inr (.inr ⟨rfl, ⟨hpos, hmax⟩, rfl⟩)
  · rintro (⟨rfl, hlength, rfl⟩ | ⟨rfl, hlength, rfl⟩ | ⟨rfl, ⟨hpos, hmax⟩, rfl⟩)
    · exact ⟨.ipv4 text hlength, rfl, rfl⟩
    · exact ⟨.ipv6 text hlength, rfl, rfl⟩
    · exact ⟨.domain host hpos hmax, rfl, rfl⟩

theorem reads_receiveHost (addressType : UInt8) :
    Reads (receiveHost addressType) (fun host text =>
      ∃ address : Address, address.encode = addressType :: text ∧ host = address.host) := by
  simp only [exists_address_iff]
  refine Reads.ite ?_ fun hipv4 => Reads.ite ?_ fun hipv6 => Reads.ite ?_ fun hdomain => ?_
  · rintro rfl
    refine (reads_value 4).congr fun host text => ?_
    simp [addressIPv4, addressIPv6, addressDomain]
  · rintro rfl
    refine (reads_value 16).congr fun host text => ?_
    simp [addressIPv4, addressIPv6, addressDomain]
  · rintro rfl
    refine reads_domain.congr fun host text => ?_
    simp [addressIPv4, addressIPv6, addressDomain]
  · refine (reads_error (Err.message "unsupported SOCKS5 address type")).congr fun host text => ?_
    simp [hipv4, hipv6, hdomain]

theorem Address.exists_cons (address : Address) : ∃ addressType text,
    address.encode = addressType :: text := by
  cases address with
  | ipv4 value => exact ⟨_, _, rfl⟩
  | ipv6 value => exact ⟨_, _, rfl⟩
  | domain name => exact ⟨_, _, rfl⟩

/-- A port is its two bytes. -/
theorem port_iff {portBytes : Bytes} {port : UInt16} :
    portBytes.length = 2 ∧ UInt16.ofNat (BigEndian.ofBytes portBytes) = port ↔
      portBytes = BigEndian.toBytes 2 port.toNat := by
  constructor
  · rintro ⟨hlength, rfl⟩
    have hlt := BigEndian.ofBytes_lt portBytes
    rw [hlength] at hlt
    rw [UInt16.toNat_ofNat_of_lt' hlt, ← hlength, BigEndian.toBytes_ofBytes]
  · rintro rfl
    rw [BigEndian.ofBytes_toBytes 2 _ port.toNat_lt, UInt16.ofNat_toNat]
    exact ⟨BigEndian.toBytes_length _ _, rfl⟩

theorem take_append_getD {header : Bytes} (hlength : header.length = 4) :
    header = header.take 3 ++ [header.getD 3 0] := by
  match header, hlength with
  | [_, _, _, _], _ => rfl

theorem reads_receiveRequest :
    Reads receiveRequest (fun target text => ∃ request : Connect,
      text = request.encode ∧ target = (request.address.host, request.port)) := by
  refine Reads.congr (Reads.bind (reads_receiveFull 4) fun header =>
    Reads.guard (Reads.bind (reads_receiveHost (header.getD 3 0)) fun host =>
      Reads.bind (reads_receiveFull 2) fun portBytes =>
        Reads.guard (reads_ok (host, UInt16.ofNat (BigEndian.ofBytes portBytes)))
          (UInt16.ofNat (BigEndian.ofBytes portBytes) = 0)
          (.message "invalid SOCKS5 destination port"))
      (header.take 3 ≠ [version5, commandConnect, 0]) (.message "unsupported SOCKS5 request")) ?_
  intro target text
  constructor
  · rintro ⟨_, header, _, ⟨rfl, hlength⟩, ⟨hheader, _, addressText, _, ⟨address, haddress, rfl⟩,
      ⟨_, portBytes, _, ⟨rfl, hport⟩, ⟨hne, rfl, rfl⟩, rfl⟩, rfl⟩, rfl⟩
    refine ⟨⟨address, UInt16.ofNat (BigEndian.ofBytes portBytes), hne⟩, ?_, rfl⟩
    have hbytes := port_iff.1 ⟨hport, rfl⟩
    rw [Connect.encode, haddress, ← hbytes, ← not_not.1 hheader]
    nth_rewrite 1 [take_append_getD hlength]
    simp
  · rintro ⟨⟨address, port, hne⟩, rfl, rfl⟩
    obtain ⟨addressType, addressText, haddress⟩ := address.exists_cons
    obtain ⟨hport, hvalue⟩ := port_iff.2 (@rfl _ (BigEndian.toBytes 2 port.toNat))
    refine ⟨_, [version5, commandConnect, 0, addressType],
      addressText ++ BigEndian.toBytes 2 port.toNat, ⟨rfl, rfl⟩, ⟨not_not.2 rfl, address.host, addressText,
        BigEndian.toBytes 2 port.toNat, ⟨address, haddress, rfl⟩, ⟨_, _, [], ⟨rfl, hport⟩,
          ⟨?_, ?_, rfl⟩, by simp⟩, rfl⟩, ?_⟩
    · rw [hvalue]
      exact hne
    · rw [hvalue]
    · simp [Connect.encode, haddress]

theorem reads_handshake (write : Bytes → Option Err) :
    Reads (handshake write) (fun target text => write [version5, methodNoAuth] = none ∧
      ∃ (greeting : Greeting) (request : Connect), text = greeting.encode ++ request.encode ∧
        target = (request.address.host, request.port)) := by
  refine Reads.congr (Reads.bind (reads_negotiate write) fun _ => reads_receiveRequest) ?_
  intro target text
  constructor
  · rintro ⟨_, _, _, ⟨hwrite, greeting, rfl⟩, ⟨request, rfl, rfl⟩, rfl⟩
    exact ⟨hwrite, greeting, request, rfl, rfl⟩
  · rintro ⟨hwrite, greeting, request, rfl, rfl⟩
    exact ⟨(), _, _, ⟨hwrite, greeting, rfl⟩, ⟨request, rfl, rfl⟩, rfl⟩

/-- The relay runs behind a handshake, a dial and a reply that succeed, and gets what the handshake
    left. -/
theorem handle_eq_relayed_iff {write : Bytes → Option Err} {dial : Bytes → UInt16 → Bool}
    {connection : List Bytes} {host upstream : Bytes} {port : UInt16} :
    handle write dial connection = .relayed host port upstream ↔
      (∃ left, handshake write connection = .ok ((host, port), left) ∧ left.flatten = upstream) ∧
        dial host port = true ∧ write (replyBytes 0) = none := by
  unfold handle handshake
  cases negotiate write connection with
  | error err => simp [bind, Except.bind]
  | ok negotiated =>
    show _ ↔ (∃ left, receiveRequest negotiated.2 = .ok ((host, port), left) ∧ _) ∧ _
    dsimp only
    cases receiveRequest negotiated.2 with
    | error err => simp
    | ok read =>
      obtain ⟨⟨host', port'⟩, left⟩ := read
      dsimp only
      split
      · next hdial =>
        refine iff_of_false (by simp) ?_
        rintro ⟨⟨left', heq, -⟩, hdial', -⟩
        cases heq
        exact hdial hdial'
      · next hdial =>
        split
        · next hreply =>
          refine iff_of_false (by simp) ?_
          rintro ⟨-, -, hreply'⟩
          rw [hreply'] at hreply
          cases hreply
        · next hreply =>
          constructor
          · intro heq
            cases heq
            exact ⟨⟨left, rfl, rfl⟩, not_not.1 hdial, by simpa using hreply⟩
          · rintro ⟨⟨left', heq, rfl⟩, -, -⟩
            cases heq
            rfl

/-- **The handshake reads its grammar and nothing more.** For every connection, in whatever pieces its
    bytes arrive: `negotiate` and `readRequest` succeed exactly if the answer to the greeting can be
    written and the bytes begin with a greeting and a request; the host and the port are those of the
    request, and what is left is all that follows it. Where the destination is dialled and the reply
    written, this is what the relay copies. -/
theorem handshake_iff (write : Bytes → Option Err) (dial : Bytes → UInt16 → Bool)
    (connection : List Bytes) :
    (∀ host port rest,
      (∃ left, handshake write connection = .ok ((host, port), left) ∧ left.flatten = rest) ↔
        write [version5, methodNoAuth] = none ∧
          ∃ (greeting : Greeting) (request : Connect),
            connection.flatten = greeting.encode ++ request.encode ++ rest ∧
              host = request.address.host ∧ port = request.port) ∧
    ∀ host port upstream, handle write dial connection = .relayed host port upstream ↔
      (∃ left, handshake write connection = .ok ((host, port), left) ∧ left.flatten = upstream) ∧
        dial host port = true ∧ write (replyBytes 0) = none := by
  constructor
  · intro host port rest
    rw [reads_handshake write connection (host, port) rest]
    constructor
    · rintro ⟨_, ⟨hwrite, greeting, request, rfl, htarget⟩, hconnection⟩
      cases htarget
      exact ⟨hwrite, greeting, request, hconnection, rfl, rfl⟩
    · rintro ⟨hwrite, greeting, request, hconnection, rfl, rfl⟩
      exact ⟨_, ⟨hwrite, greeting, request, rfl, rfl⟩, hconnection⟩
  · exact fun host port upstream => handle_eq_relayed_iff

/-! ## Requests as byte strings -/

theorem receiveHost_flatten (addressType : UInt8) (src : List Bytes) :
    joined (receiveHost addressType src) = readHost addressType src.flatten := by
  unfold receiveHost readHost
  split
  · exact joined_bind (receiveFull_flatten 4 src) fun value src => rfl
  split
  · exact joined_bind (receiveFull_flatten 16 src) fun value src => rfl
  split
  · refine joined_bind (receiveFull_flatten 1 src) fun length src => ?_
    dsimp only
    split
    · rfl
    · exact receiveFull_flatten _ src
  · rfl

/-- As `joined_bind`, for a result without the rest of the bytes. -/
theorem map_fst_bind {α β : Type} {x : Except Err (α × List Bytes)} {y : Except Err (α × Bytes)}
    {f : α × List Bytes → Except Err (β × List Bytes)} {g : α × Bytes → Except Err β}
    (hx : joined x = y) (hfg : ∀ a src, (f (a, src)).map Prod.fst = g (a, src.flatten)) :
    (x >>= f).map Prod.fst = y >>= g := by
  subst hx
  cases x with
  | error e => rfl
  | ok p => exact hfg p.1 p.2

/-- The pieces do not matter to `readRequest`. -/
theorem receiveRequest_flatten (src : List Bytes) :
    (receiveRequest src).map Prod.fst = readRequest src.flatten := by
  refine map_fst_bind (receiveFull_flatten 4 src) fun header src => ?_
  dsimp only
  split
  · rfl
  refine map_fst_bind (receiveHost_flatten _ src) fun host src => ?_
  refine map_fst_bind (receiveFull_flatten 2 src) fun portBytes src => ?_
  dsimp only
  split
  · rfl
  · rfl

end LnProxy.SOCKS5
