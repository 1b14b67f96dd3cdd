import LnProxy.Proxy.HostPort

set_option autoImplicit false

/-! # The address of the server (`NormalizeServerAddress`, `addressHost`)

The port of a server may be left out, and is 443 then. The node normalises its configured address and
`Exit.Run` normalises the result again; the client takes the host of the normalised address for the
key under which it knows the server. All this works for every address but a name with stray brackets:
the port is appended to it, and the result is not split. -/

namespace LnProxy.Config

open Proxy

/-! ## The functions -/

/-- `net.JoinHostPort` -/
def joinHostPort (host port : List Char) : List Char :=
  if ':' ∈ host then '[' :: (host ++ ']' :: ':' :: port) else host ++ ':' :: port

/-- `net.ParseIP` returns an address. -/
def parsesIP (text : List Char) : Bool := IPAddress.isIPv4 text || IPAddress.isIPv6 text

def defaultPort : List Char := ['4', '4', '3']

def normalizeServerAddress (address : List Char) : Except String (List Char) :=
  let address := trim isSpace address
  if address = [] then .error "server address is required"
  else if (netSplitHostPort address).isSome then .ok address
  else if ':' ∈ address ∧ address.head? ≠ some '[' ∧ parsesIP address = true then
    .ok (joinHostPort address defaultPort)
  else if address.count ':' = 0 then .ok (joinHostPort address defaultPort)
  else .error ("invalid server address " ++ quoted (String.ofList address))

def addressHost (address : List Char) : List Char :=
  match netSplitHostPort address with
  | none => address
  | some (host, _) => host

/-! ## The property and its condition -/

/-- The address with an explicit port 443, and brackets around an IPv6 address. -/
def withPort (address : List Char) : List Char :=
  if IPAddress.isIPv6 address then '[' :: (address ++ ']' :: ':' :: defaultPort)
  else address ++ ':' :: defaultPort

/-- What is expected of the normal form `result` of an address. -/
structure Normal (address result : List Char) : Prop where
  splits : ∃ host port, netSplitHostPort result = some (host, port) ∧ addressHost result = host
  idempotent : normalizeServerAddress result = .ok result
  explicit : netSplitHostPort (trim isSpace address) = none →
    normalizeServerAddress (withPort (trim isSpace address)) = .ok result

/-- There are no brackets, or one pair of them around the whole text. -/
def wellBracketed (text : List Char) : Bool :=
  decide (Unbracketed text) ||
    decide (text = '[' :: ((text.drop 1).dropLast ++ [']']) ∧ Unbracketed (text.drop 1).dropLast)

variable {address result a : List Char}

theorem wellBracketed_iff : wellBracketed a = true ↔
    Unbracketed a ∨ ∃ inside, a = '[' :: (inside ++ [']']) ∧ Unbracketed inside := by
  rw [wellBracketed, Bool.or_eq_true, decide_eq_true_eq, decide_eq_true_eq,
    eq_bracketed_iff Unbracketed]

/-! ## The three ways to be accepted -/

/-- What is accepted, and what becomes of it. -/
inductive Accepts (a : List Char) : List Char → Prop where
  /-- There is a port. -/
  | port {host port : List Char} (hsplit : netSplitHostPort a = some (host, port)) : Accepts a a
  | ipv6 (hip : IPAddress.isIPv6 a = true) :
      Accepts a ('[' :: (a ++ ']' :: ':' :: defaultPort))
  | name (hne : a ≠ []) (hcolon : ':' ∉ a) : Accepts a (a ++ ':' :: defaultPort)

theorem mem_colon_of_isIPv6 (h : IPAddress.isIPv6 a = true) : ':' ∈ a :=
  List.count_pos_iff.1 (Nat.lt_of_lt_of_le (by decide) (IPAddress.isIPv6_spec h).2)

/-- An IP address with a colon is an IPv6 address. -/
theorem parsesIP_iff (hcolon : ':' ∈ a) : parsesIP a = true ↔ IPAddress.isIPv6 a = true := by
  rw [parsesIP, Bool.or_eq_true, or_iff_right]
  intro hip
  have hallowed := IPAddress.isIPv4_spec hip ':' hcolon
  revert hallowed
  decide

theorem normalizeServerAddress_eq_ok_iff :
    normalizeServerAddress address = .ok result ↔ Accepts (trim isSpace address) result := by
  unfold normalizeServerAddress
  dsimp only
  generalize trim isSpace address = a
  constructor
  · intro h
    split at h
    · cases h
    next hne =>
    split at h
    · next hsplit =>
      obtain ⟨⟨host, port⟩, hsplit⟩ := Option.isSome_iff_exists.1 hsplit
      cases h
      exact .port hsplit
    split at h
    · next hip =>
      obtain ⟨hcolon, -, hip⟩ := hip
      rw [joinHostPort, if_pos hcolon, Except.ok.injEq] at h
      exact h ▸ .ipv6 ((parsesIP_iff hcolon).1 hip)
    split at h
    · next hcount =>
      have hcolon : ':' ∉ a := List.count_eq_zero.1 hcount
      rw [joinHostPort, if_neg hcolon, Except.ok.injEq] at h
      exact h ▸ .name hne hcolon
    · cases h
  · intro h
    cases h with
    | port hsplit =>
      have hne : result ≠ [] := List.ne_nil_of_length_pos (Nat.zero_lt_of_lt (length_host_lt hsplit))
      rw [if_neg hne, if_pos (by rw [hsplit]; rfl)]
    | ipv6 hip =>
      have hcolon := mem_colon_of_isIPv6 hip
      have hhead : a.head? ≠ some '[' :=
        fun h => (unbracketed_of_isIPv6 hip).1 (List.mem_of_head? h)
      rw [if_neg (ne_nil_of_isIPv6 hip), netSplitHostPort_isIPv6 hip, if_neg (by decide),
        if_pos ⟨hcolon, hhead, (parsesIP_iff hcolon).2 hip⟩, joinHostPort, if_pos hcolon]
    | name hne hcolon =>
      rw [if_neg hne, netSplitHostPort_noColon hcolon, if_neg (by decide),
        if_neg (fun h => hcolon h.1), if_pos (List.count_eq_zero.2 hcolon), joinHostPort,
        if_neg hcolon]

/-! ## Normal forms -/

theorem defaultPort_spec : ':' ∉ defaultPort ∧ Unbracketed defaultPort := by decide

/-- A text that splits and has no space at its ends is its own normal form. -/
theorem normalize_self {host port : List Char} (htrim : trim isSpace a = a)
    (hsplit : netSplitHostPort a = some (host, port)) : normalizeServerAddress a = .ok a := by
  rw [normalizeServerAddress_eq_ok_iff, htrim]
  exact .port hsplit

theorem trim_port {text : List Char} (hhead : ∀ c, text.head? = some c → isSpace c = false)
    (hne : text ≠ []) : trim isSpace (text ++ ':' :: defaultPort) = text ++ ':' :: defaultPort := by
  refine trim_eq_self_of_ends ?_ ?_
  · intro c hc
    rw [List.head?_append_of_ne_nil _ hne] at hc
    exact hhead c hc
  · intro c hc
    rw [List.getLast?_append_of_ne_nil _ (List.cons_ne_nil _ _)] at hc
    cases hc
    decide

theorem netSplitHostPort_isSome_iff (hcolon : ':' ∉ a) :
    (∃ host port, netSplitHostPort (a ++ ':' :: defaultPort) = some (host, port)) ↔
      wellBracketed a = true := by
  rw [wellBracketed_iff]
  constructor
  · rintro ⟨host, port, hsplit⟩
    obtain ⟨⟨heq, hhost⟩ | heq, hport, hun, -⟩ := netSplitHostPort_eq_some_iff.1 hsplit
    · obtain rfl : a = host := by
        have hcut := cutFirst_eq_some_iff.2 ⟨heq, hhost⟩
        rw [cutFirst_eq_some_iff.2 ⟨rfl, hcolon⟩, Option.some.injEq, Prod.mk.injEq] at hcut
        exact hcut.1
      exact .inl hun
    · refine .inr ⟨host, ?_, hun⟩
      have heq : a ++ ':' :: defaultPort = '[' :: (host ++ [']']) ++ ':' :: port := by simpa using heq
      have hcut := cutLast_eq_some_iff.2 ⟨heq, hport⟩
      rw [cutLast_eq_some_iff.2 ⟨rfl, defaultPort_spec.1⟩, Option.some.injEq, Prod.mk.injEq] at hcut
      exact hcut.1
  · rintro (hun | ⟨inside, rfl, hun⟩)
    · exact ⟨a, defaultPort, netSplitHostPort_eq_some_iff.2
        ⟨.inl ⟨rfl, hcolon⟩, defaultPort_spec.1, hun, defaultPort_spec.2⟩⟩
    · exact ⟨inside, defaultPort, netSplitHostPort_eq_some_iff.2
        ⟨.inr (by simp), defaultPort_spec.1, hun, defaultPort_spec.2⟩⟩

theorem addressHost_eq {host port : List Char} (h : netSplitHostPort result = some (host, port)) :
    addressHost result = host := by
  rw [addressHost, h]

/-- **When a normalised address is normal.** For every address that is accepted, the result is split
    without error, is its own normal form and is that of the address with an explicit port, exactly if
    the address has a colon or no stray brackets. -/
theorem normal_iff (h : normalizeServerAddress address = .ok result) :
    Normal address result ↔
      ':' ∈ trim isSpace address ∨ wellBracketed (trim isSpace address) = true := by
  obtain ⟨hhead, hlast⟩ := trim_ends isSpace address
  have htrim := trim_trim isSpace address
  cases normalizeServerAddress_eq_ok_iff.1 h with
  | @port host port hsplit =>
    refine iff_of_true ⟨⟨host, port, hsplit, addressHost_eq hsplit⟩, normalize_self htrim hsplit, ?_⟩
      (.inl ?_)
    · intro hnone
      rw [hnone] at hsplit
      cases hsplit
    · obtain ⟨⟨heq, -⟩ | heq, -⟩ := netSplitHostPort_eq_some_iff.1 hsplit <;> rw [heq] <;> simp
  | ipv6 hip =>
    have hsplit := netSplitHostPort_eq_some_iff.2 ⟨.inr rfl, defaultPort_spec.1,
      unbracketed_of_isIPv6 hip, defaultPort_spec.2⟩
    have hself := normalize_self (@trim_port ('[' :: (trim isSpace address ++ [']']))
      (by rintro c ⟨⟩; decide) (List.cons_ne_nil _ _)) (by simpa using hsplit)
    rw [List.cons_append, List.append_assoc, List.singleton_append] at hself
    refine iff_of_true ⟨⟨_, _, hsplit, addressHost_eq hsplit⟩, hself, fun _ => ?_⟩
      (.inl (mem_colon_of_isIPv6 hip))
    rw [withPort, if_pos hip]
    exact hself
  | name hne hcolon =>
    rw [or_iff_right hcolon, ← netSplitHostPort_isSome_iff hcolon]
    constructor
    · intro hnormal
      obtain ⟨host, port, hsplit, -⟩ := hnormal.splits
      exact ⟨host, port, hsplit⟩
    · rintro ⟨host, port, hsplit⟩
      have hself := normalize_self (trim_port hhead hne) hsplit
      refine ⟨⟨host, port, hsplit, addressHost_eq hsplit⟩, hself, fun _ => ?_⟩
      have hip : ¬ IPAddress.isIPv6 (trim isSpace address) = true :=
        fun hip => hcolon (mem_colon_of_isIPv6 hip)
      rw [withPort, if_neg hip]
      exact hself

theorem ipv6_normal :
    normalizeServerAddress " 2001:db8::1 ".toList = .ok "[2001:db8::1]:443".toList ∧
      Normal " 2001:db8::1 ".toList "[2001:db8::1]:443".toList :=
  ⟨by decide +kernel, (normal_iff (by decide +kernel)).2 (.inl (by decide +kernel))⟩

/-- A stray bracket: the result is not split, the host is the whole address, and normalising again
    fails. -/
theorem strayBracket_not_normal :
    normalizeServerAddress "host]".toList = .ok "host]:443".toList ∧
      netSplitHostPort "host]:443".toList = none ∧
      addressHost "host]:443".toList = "host]:443".toList ∧
      (normalizeServerAddress "host]:443".toList).isOk = false := by
  decide +kernel

end LnProxy.Config
