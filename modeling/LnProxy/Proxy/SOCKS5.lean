import LnProxy.Lib.UTF8
import LnProxy.Protocol.Frame

set_option autoImplicit false

/-! # The SOCKS5 proxy (`internal/proxy/socks5/socks5.go`)

`readRequest` reads a CONNECT request off the connection of a local application. The host it returns
is a Go string, that is, any bytes: the text of an IP address, or the bytes of the domain as they
stand in the request. -/

namespace LnProxy.SOCKS5

open Protocol

/-! ## The text of an IP address (`net.IP.String`) -/

/-- A digit below 16. -/
def digit (n : Nat) : UInt8 := UInt8.ofNat (if n < 10 then 48 + n else 87 + n)

def appendDecimal (b : UInt8) : Bytes :=
  let x := b.toNat
  (if 100 ≤ x then [digit (x / 100)] else []) ++ (if 10 ≤ x then [digit (x / 10 % 10)] else []) ++
    [digit (x % 10)]

def appendHex (x : Nat) : Bytes :=
  (if 0x1000 ≤ x then [digit (x / 0x1000 % 16)] else []) ++
    (if 0x100 ≤ x then [digit (x / 0x100 % 16)] else []) ++
    (if 0x10 ≤ x then [digit (x / 0x10 % 16)] else []) ++ [digit (x % 16)]

/-- The parts with a separator between them. -/
def join (separator : UInt8) : List Bytes → Bytes
  | [] => []
  | [part] => part
  | part :: parts => part ++ separator :: join separator parts

def dot : UInt8 := 46
def colon : UInt8 := 58

def ipv4String (value : Bytes) : Bytes := join dot (value.map appendDecimal)

/-- The 16-bit groups of an address. -/
def groups : Bytes → List Nat
  | hi :: lo :: rest => (hi.toNat * 256 + lo.toNat) :: groups rest
  | _ => []

/-- The length of the run of zero groups at position `i`. -/
def zeroRun (gs : List Nat) (i : Nat) : Nat := ((gs.drop i).takeWhile (· = 0)).length

/-- The first of the longest runs of at least two zero groups, with its end. -/
def zeroSpan (gs : List Nat) : Nat × Nat :=
  (List.range gs.length).foldl
    (fun (start, stop) i =>
      if 2 ≤ zeroRun gs i ∧ stop - start < zeroRun gs i then (i, i + zeroRun gs i) else (start, stop))
    (255, 255)

def hexGroups (gs : List Nat) : Bytes := join colon (gs.map appendHex)

def ipv6String (value : Bytes) : Bytes :=
  let gs := groups value
  let (start, stop) := zeroSpan gs
  if start < gs.length then
    hexGroups (gs.take start) ++ [colon, colon] ++ hexGroups (gs.drop stop)
  else hexGroups gs

/-- `net.IP.To4` for an address of 16 bytes. -/
def to4 (value : Bytes) : Option Bytes :=
  if value.take 12 = [0, 0, 0, 0, 0, 0, 0, 0, 0, 0, 0xff, 0xff] then some (value.drop 12) else none

/-- `net.IP.String`, for the lengths of an IPv4 and an IPv6 address. -/
def ipString (value : Bytes) : Bytes :=
  if value.length = 4 then ipv4String value
  else
    match to4 value with
    | some value => ipv4String value
    | none => ipv6String value

/-! ## The request -/

def version5 : UInt8 := 5
def commandConnect : UInt8 := 1
def addressIPv4 : UInt8 := 1
def addressDomain : UInt8 := 3
def addressIPv6 : UInt8 := 4

/-- The host of a request with the given address type, and the input behind it. -/
def readHost (addressType : UInt8) (input : Bytes) : Except Err (Bytes × Bytes) :=
  if addressType = addressIPv4 then do
    let (value, input) ← readFull 4 input
    return (ipString value, input)
  else if addressType = addressIPv6 then do
    let (value, input) ← readFull 16 input
    return (ipString value, input)
  else if addressType = addressDomain then do
    let (length, input) ← readFull 1 input
    if length.headD 0 = 0 then throw (.message "empty SOCKS5 destination")
    readFull (length.headD 0).toNat input
  else throw (.message "unsupported SOCKS5 address type")

/-- The host and the port of the request that `input` begins with. -/
def readRequest (input : Bytes) : Except Err (Bytes × UInt16) := do
  let (header, input) ← readFull 4 input
  if header.take 3 ≠ [version5, commandConnect, 0] then
    throw (.message "unsupported SOCKS5 request")
  let (host, input) ← readHost (header.getD 3 0) input
  let (portBytes, _) ← readFull 2 input
  let port := UInt16.ofNat (BigEndian.ofBytes portBytes)
  if port = 0 then throw (.message "invalid SOCKS5 destination port")
  return (host, port)

example : ipString [127, 0, 0, 1] = "127.0.0.1".toUTF8.toList := by decide +kernel

example : ipString [0x20, 0x01, 0x0d, 0xb8, 0, 0, 0, 0, 0, 0, 0, 0, 0, 0, 0, 1] =
    "2001:db8::1".toUTF8.toList := by decide +kernel

/-! ## What hosts are -/

theorem digit_ascii {n : Nat} (h : n < 16) : (digit n).toNat < 128 := by
  have hforall : ∀ n < 16, (digit n).toNat < 128 := by decide
  exact hforall n h

theorem appendDecimal_ascii (b : UInt8) : ∀ c ∈ appendDecimal b, c.toNat < 128 := by
  have hb : b.toNat < 256 := b.toNat_lt
  intro c hc
  simp only [appendDecimal, List.mem_append, List.mem_ite_nil_right, List.mem_singleton] at hc
  rcases hc with (⟨-, rfl⟩ | ⟨-, rfl⟩) | rfl
  · exact digit_ascii (by omega)
  · exact digit_ascii (by omega)
  · exact digit_ascii (by omega)

theorem appendHex_ascii (x : Nat) : ∀ c ∈ appendHex x, c.toNat < 128 := by
  intro c hc
  simp only [appendHex, List.mem_append, List.mem_ite_nil_right, List.mem_singleton] at hc
  rcases hc with ((⟨-, rfl⟩ | ⟨-, rfl⟩) | ⟨-, rfl⟩) | rfl
  all_goals exact digit_ascii (by omega)

theorem join_ascii {separator : UInt8} (hseparator : separator.toNat < 128) {parts : List Bytes}
    (h : ∀ part ∈ parts, ∀ c ∈ part, c.toNat < 128) : ∀ c ∈ join separator parts, c.toNat < 128 := by
  induction parts with
  | nil => simp [join]
  | cons part parts ih =>
    have hpart := h part (List.mem_cons_self ..)
    cases parts with
    | nil => exact hpart
    | cons next rest =>
      intro c hc
      rw [join, List.mem_append, List.mem_cons] at hc
      · rcases hc with hc | rfl | hc
        · exact hpart c hc
        · exact hseparator
        · exact ih (fun q hq => h q (List.mem_cons_of_mem _ hq)) c hc
      · exact List.cons_ne_nil next rest

theorem ipv4String_ascii (value : Bytes) : ∀ c ∈ ipv4String value, c.toNat < 128 := by
  refine join_ascii (by decide) fun part hpart => ?_
  obtain ⟨b, -, rfl⟩ := List.mem_map.1 hpart
  exact appendDecimal_ascii b

theorem hexGroups_ascii (gs : List Nat) : ∀ c ∈ hexGroups gs, c.toNat < 128 := by
  refine join_ascii (by decide) fun part hpart => ?_
  obtain ⟨x, -, rfl⟩ := List.mem_map.1 hpart
  exact appendHex_ascii x

theorem ipString_valid (value : Bytes) : UTF8.Valid (ipString value) := by
  apply UTF8.valid_of_ascii
  unfold ipString
  split
  · exact ipv4String_ascii value
  · split
    · exact ipv4String_ascii _
    · unfold ipv6String
      dsimp only
      split
      · intro c hc
        simp only [List.mem_append, List.mem_cons, List.not_mem_nil, or_false] at hc
        rcases hc with (hc | rfl | rfl) | hc
        · exact hexGroups_ascii _ c hc
        · decide
        · decide
        · exact hexGroups_ascii _ c hc
      · exact hexGroups_ascii _

/-- A host is the text of an address, or a domain. -/
theorem readHost_valid {addressType : UInt8} {input rest host : Bytes}
    (h : readHost addressType input = .ok (host, rest)) (hdomain : addressType ≠ addressDomain) :
    UTF8.Valid host := by
  have hip : ∀ n, (do let (value, input) ← readFull n input; return (ipString value, input)) =
      Except.ok (host, rest) → UTF8.Valid host := by
    intro n h
    cases hread : readFull n input with
    | error err =>
      rw [hread] at h
      cases h
    | ok read =>
      rw [hread] at h
      cases h
      exact ipString_valid read.1
  unfold readHost at h
  split at h
  · exact hip 4 h
  · split at h
    · exact hip 16 h
    · cases h

end LnProxy.SOCKS5
