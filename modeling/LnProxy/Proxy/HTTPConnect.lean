import LnProxy.Lib.LineReader
import LnProxy.Protocol.Frame
import LnProxy.Text

set_option autoImplicit false

/-! # The HTTP CONNECT proxy (`internal/proxy/httpconnect/httpconnect.go`)

`handle` parses the request of a local application through a `bufio.Reader` and hands a CONNECT
request to `handleConnect`, which dials the destination, answers with the 200 line and relays. The
relay reads the connection, not the reader that parsed the request: whatever the reader has buffered
behind the request does not reach the destination.

`bufio.Reader` is the line reader of the library with the default size of 4096 bytes: `ReadLine` puts
a carriage return at the end of a full buffer back. `http.ReadRequest` reads lines up to the first
blank one, taking the blanks at the beginning of a folded line off the reader before the line, and
parses them; the parser is a parameter. -/

namespace LnProxy.Proxy

/-! ## Destinations

Strings are lists of code points here. -/

/-- The text before and after the first `c`. -/
def cutFirst (c : Char) : List Char → Option (List Char × List Char)
  | [] => none
  | a :: text =>
    if a = c then some ([], text)
    else (cutFirst c text).map fun (before, after) => (a :: before, after)

/-- The text before and after the last `c`. -/
def cutLast (c : Char) (text : List Char) : Option (List Char × List Char) :=
  (cutFirst c text.reverse).map fun (after, before) => (before.reverse, after.reverse)

/-- `net.SplitHostPort`; its callers do not look at the text of the error. -/
def netSplitHostPort (hostport : List Char) : Option (List Char × List Char) :=
  match cutLast ':' hostport with
  | none => none
  | some (before, port) =>
    match hostport with
    | '[' :: inside =>
      -- the first closing bracket stands just before the last colon
      match cutFirst ']' inside with
      | none => none
      | some (host, behind) =>
        if behind = ':' :: port ∧ '[' ∉ inside ∧ ']' ∉ behind then some (host, port) else none
    | _ =>
      if ':' ∈ before ∨ '[' ∈ hostport ∨ ']' ∈ hostport then none else some (before, port)

/-- The value of a non-empty run of decimal digits. -/
def digits : List Char → Option Nat
  | [] => none
  | text =>
    if text.all Char.isDigit then
      some (text.foldl (fun n c => 10 * n + (c.toNat - '0'.toNat)) 0)
    else none

/-- `strconv.Atoi`: a sign, digits, and the range of a 64-bit integer. -/
def atoi (text : List Char) : Option Int :=
  let signed : Option Int := match text with
    | '-' :: rest => (digits rest).map fun n => -(n : Int)
    | '+' :: rest => (digits rest).map Int.ofNat
    | _ => (digits text).map Int.ofNat
  signed.filter fun n => -2 ^ 63 ≤ n && n < 2 ^ 63

/-- `strconv.Itoa` of a port. -/
def itoa (n : Nat) : List Char := (toString n).toList

/-- `splitHostPort`. -/
def splitHostPort (value : List Char) (fallback : Nat) : Except String (List Char × UInt16) :=
  let value := trim isSpace value
  if value = [] then .error "destination host is required"
  else
    match netSplitHostPort value with
    | some (host, portText) => finish host portText
    | none =>
      if value.count ':' = 1 then .error "invalid destination"
      else finish value (itoa fallback)
where
  finish (host portText : List Char) : Except String (List Char × UInt16) :=
    match atoi portText with
    | none => .error "invalid destination port"
    | some port =>
      if port < 1 ∨ 65535 < port then .error "invalid destination port"
      else .ok (trim (fun c => c = '[' || c = ']') host, UInt16.ofNat port.toNat)

/-! ## The handler -/

/-- What the handler looks at in a parsed request. -/
structure Request where
  method : String
  host : List Char
  deriving DecidableEq

def newline : UInt8 := 10

def carriageReturn : UInt8 := 13

/-- The reader `bufio.NewReader` makes, as `ReadRequest` uses it. -/
def requestReader : LineReader.Rules UInt8 where
  size := 4096
  delim := newline
  back := carriageReturn
  skip b := b = 32 || b = 9
  two_le := by decide

/-- The line that ends a request. -/
def isBlank (line : Bytes) : Bool := line = [newline] || line = [carriageReturn, newline]

/-- How the handling of one connection ends. -/
inductive Outcome where
  /-- `writeError` with this status and message; the connection is closed. -/
  | refused (status : Nat) (message : String)
  /-- The 200 line could not be written; the target is closed. -/
  | unanswered
  /-- `Relay` ran; the bytes it copied to the target. -/
  | relayed (host : List Char) (port : UInt16) (upstream : Bytes)
  /-- Another method: `handleHTTP` goes on with the request and the reader. -/
  | http (request : Request) (reader : LineReader UInt8)
  deriving DecidableEq

section
variable (parse : List Bytes → Option Request) (dial : List Char → UInt16 → Bool) (written : Bool)

/-- `http.ReadRequest` on a new reader over the connection. -/
def readRequest (connection : List Bytes) : Option (Request × LineReader UInt8) :=
  let reader := LineReader.start connection
  let fuel := reader.weight + 1
  (LineReader.readLines requestReader isBlank fuel fuel reader).bind fun (lines, reader) =>
    (parse lines).map fun request => (request, reader)

/-- `io.Copy` from the connection to a target that takes everything: all that arrives. -/
def copyUp (connection : List Bytes) : Bytes := connection.flatten

/-- `handleConnect`: `dial` says whether the dialer reaches a destination, `written` whether the
    200 line could be written. -/
def handleConnect (connection : List Bytes) (request : Request) : Outcome :=
  match splitHostPort request.host 443 with
  | .error message => .refused 400 message
  | .ok (host, port) =>
    if ¬ dial host port then .refused 502 "destination unavailable"
    else if ¬ written then .unanswered
    else .relayed host port (copyUp connection)

/-- `handle`: what is left of the connection is what the reader has not taken from it. -/
def handle (connection : List Bytes) : Outcome :=
  match readRequest parse connection with
  | none => .refused 400 "malformed HTTP proxy request"
  | some (request, reader) =>
    if request.method = "CONNECT" then handleConnect dial written reader.src request
    else .http request reader

end

/-! ## What reaches the target -/

/-- A CONNECT request for a destination: lines up to a blank one, which parse as such a request. -/
structure IsConnect (parse : List Bytes → Option Request) (request : Bytes) (host : List Char)
    (port : UInt16) : Prop where
  parsed : ∃ lines final, request = lines.flatten ++ final ∧
    (∀ line ∈ lines, LineReader.IsLine newline line ∧ isBlank line = false) ∧
    LineReader.IsLine newline final ∧ isBlank final = true ∧
    ∃ r, parse lines = some r ∧ r.method = "CONNECT" ∧ splitHostPort r.host 443 = .ok (host, port)

section
variable {parse : List Bytes → Option Request} {dial : List Char → UInt16 → Bool} {host : List Char}
  {port : UInt16} {request d : Bytes} {connection : List Bytes}

theorem length_le_flatten {lines : List Bytes}
    (h : ∀ line ∈ lines, LineReader.IsLine newline line ∧ isBlank line = false) :
    lines.length ≤ lines.flatten.length := by
  induction lines with
  | nil => simp
  | cons line lines ih =>
    obtain ⟨⟨body, -, rfl⟩, -⟩ := h line (List.mem_cons_self ..)
    have := ih fun l hl => h l (List.mem_cons_of_mem _ hl)
    simp only [List.length_cons, List.flatten_cons, List.length_append, List.length_nil]
    omega

/-- A CONNECT request is parsed, whatever the pieces it arrives in, and nothing but it; whether the
    buffer is empty then is a matter of the pieces. -/
theorem readRequest_connect (hrequest : IsConnect parse request host port)
    (hconnection : connection.flatten = request ++ d) : ∃ r reader,
    readRequest parse connection = some (r, reader) ∧ r.method = "CONNECT" ∧
      splitHostPort r.host 443 = .ok (host, port) ∧
      (LineReader.Arrives requestReader request [] connection ↔ reader.src.flatten = d) := by
  obtain ⟨lines, final, rfl, hbodies, hfinal, hblank, r, hparse, hmethod, hhost⟩ := hrequest.parsed
  have hn : lines.length < (LineReader.start connection).weight + 1 := by
    have hle := length_le_flatten hbodies
    have hlen := congrArg List.length hconnection
    simp only [List.length_append] at hlen
    simp only [LineReader.weight, LineReader.start]
    omega
  have hstart : LineReader.Reading requestReader _ d [] [] (LineReader.start connection) :=
    LineReader.reading_start hconnection
  obtain ⟨reader, hread, hrest, hreading, harrives⟩ :=
    hstart.readLines hbodies hfinal hblank hn (Nat.lt_succ_self _) hconnection
  exact ⟨r, reader, by simp [readRequest, hread, hparse], hmethod, hhost,
    harrives.trans (hreading.arrives_iff hrest)⟩

/-- **No byte is lost exactly when a read ends with the request**: the target gets all of `d` if and
    only if one of the pieces, cut where the buffer of 4096 bytes has no room for more of it, ends just
    with the request. -/
theorem relayed_iff_arrives (hrequest : IsConnect parse request host port)
    (hconnection : connection.flatten = request ++ d) (hdial : dial host port = true) :
    handle parse dial true connection = .relayed host port d ↔
      LineReader.Arrives requestReader request [] connection := by
  obtain ⟨r, reader, hread, hmethod, hhost, harrives⟩ := readRequest_connect hrequest hconnection
  have hhandle : handle parse dial true connection = .relayed host port reader.src.flatten := by
    simp [handle, hread, hmethod, handleConnect, hhost, hdial, copyUp]
  rw [harrives, hhandle, Outcome.relayed.injEq]
  simp

end

/-! ## A request with and without early data -/

def ascii (text : String) : Bytes := text.toList.map fun c => UInt8.ofNat c.toNat

/-- A parser for the request line alone: method, target and version. -/
def sampleParse : List Bytes → Option Request
  | [] => none
  | line :: _ =>
    match line.splitOn 32 with
    | [method, target, _] =>
      let text (word : Bytes) : List Char := word.map fun b => Char.ofNat b.toNat
      some ⟨String.ofList (text method), text target⟩
    | _ => none

/-- A dialer that reaches every destination. -/
def reaches (_ : List Char) (_ : UInt16) : Bool := true

def sampleConnect : Bytes := ascii "CONNECT a:1 HTTP/1.1\r\n\r\n"

theorem sampleConnect_isConnect : IsConnect sampleParse sampleConnect ['a'] 1 where
  parsed := by
    refine ⟨[ascii "CONNECT a:1 HTTP/1.1\r\n"], ascii "\r\n", by decide +kernel, ?_,
      ⟨[13], by decide, by decide +kernel⟩, by decide +kernel, ⟨"CONNECT", ['a', ':', '1']⟩,
      by decide +kernel, rfl, by decide +kernel⟩
    intro line hline
    rw [List.mem_singleton] at hline
    subst hline
    exact ⟨⟨ascii "CONNECT a:1 HTTP/1.1\r", by decide +kernel, by decide +kernel⟩, by decide +kernel⟩

/-- An application that waits for the answer loses nothing: the second piece ends with the request. -/
theorem patient_relayed :
    handle sampleParse reaches true [sampleConnect.take 9, sampleConnect.drop 9, [22, 3, 1]] =
      .relayed ['a'] 1 [22, 3, 1] := by
  have harrives : LineReader.Arrives requestReader sampleConnect []
      [sampleConnect.take 9, sampleConnect.drop 9, [22, 3, 1]] :=
    .read (.read (.whole [[22, 3, 1]]))
  exact (relayed_iff_arrives sampleConnect_isConnect (by decide +kernel) rfl).2 harrives

/-- Data that arrives in the same read as the end of the request never reaches the target. -/
theorem early_data_lost : IsConnect sampleParse sampleConnect ['a'] 1 ∧
    [sampleConnect ++ [22, 3, 1]].flatten = sampleConnect ++ [22, 3, 1] ∧
    handle sampleParse reaches true [sampleConnect ++ [22, 3, 1]] = .relayed ['a'] 1 [] :=
  ⟨sampleConnect_isConnect, by decide +kernel, by decide +kernel⟩

end LnProxy.Proxy
