import LnProxy.Lib.IPAddress
import LnProxy.Proxy.HTTPConnect

set_option autoImplicit false

/-! # Hosts and ports (`net.SplitHostPort`, `splitHostPort`)

`splitHostPort` takes the destination of an HTTP request apart. Every destination is accepted: a host,
an IPv6 address with or without brackets, and each with a port. More is: an empty host before a port, a
port with a sign, brackets around anything, and any text with two colons or more. -/

namespace LnProxy.Proxy

variable {text : List Char}

/-! ## `net.SplitHostPort` -/

theorem cutFirst_eq_none_iff {c : Char} : cutFirst c text = none ↔ c ∉ text := by
  induction text with
  | nil => simp [cutFirst]
  | cons a text ih =>
    rw [cutFirst, List.mem_cons, not_or]
    by_cases ha : a = c
    · simp [ha]
    · rw [if_neg ha, Option.map_eq_none_iff, ih]
      exact ⟨fun h => ⟨fun hca => ha hca.symm, h⟩, fun h => h.2⟩

theorem cutFirst_eq_some_iff {c : Char} {text before after : List Char} :
    cutFirst c text = some (before, after) ↔ text = before ++ c :: after ∧ c ∉ before := by
  induction text generalizing before with
  | nil => simp [cutFirst]
  | cons a text ih =>
    rw [cutFirst]
    by_cases ha : a = c
    · subst ha
      rw [if_pos rfl, Option.some.injEq, Prod.mk.injEq]
      constructor
      · rintro ⟨rfl, rfl⟩
        exact ⟨rfl, List.not_mem_nil⟩
      · rintro ⟨heq, hnot⟩
        cases before with
        | nil => exact ⟨rfl, (List.cons.inj heq).2⟩
        | cons b before =>
          have hab := (List.cons.inj heq).1
          exact absurd (hab ▸ List.mem_cons_self ..) hnot
    · rw [if_neg ha, Option.map_eq_some_iff]
      constructor
      · rintro ⟨⟨before', after'⟩, hcut, heq⟩
        cases heq
        obtain ⟨rfl, hnot⟩ := ih.1 hcut
        refine ⟨rfl, ?_⟩
        rw [List.mem_cons, not_or]
        exact ⟨fun hca => ha hca.symm, hnot⟩
      · rintro ⟨heq, hnot⟩
        cases before with
        | nil => exact absurd (List.cons.inj heq).1 ha
        | cons b before =>
          obtain ⟨rfl, htext⟩ := List.cons.inj heq
          rw [List.mem_cons, not_or] at hnot
          exact ⟨(before, after), ih.2 ⟨htext, hnot.2⟩, rfl⟩

theorem cutLast_eq_none_iff {c : Char} : cutLast c text = none ↔ c ∉ text := by
  rw [cutLast, Option.map_eq_none_iff, cutFirst_eq_none_iff, List.mem_reverse]

theorem cutLast_eq_some_iff {c : Char} {text before after : List Char} :
    cutLast c text = some (before, after) ↔ text = before ++ c :: after ∧ c ∉ after := by
  rw [cutLast, Option.map_eq_some_iff]
  constructor
  · rintro ⟨⟨after', before'⟩, hcut, heq⟩
    cases heq
    obtain ⟨hreverse, hnot⟩ := cutFirst_eq_some_iff.1 hcut
    refine ⟨?_, by simpa using hnot⟩
    rw [← List.reverse_reverse text, hreverse]
    simp
  · rintro ⟨rfl, hnot⟩
    exact ⟨(after.reverse, before.reverse),
      cutFirst_eq_some_iff.2 ⟨by simp, by simpa using hnot⟩, by simp⟩

/-- No brackets. -/
def Unbracketed (text : List Char) : Prop := '[' ∉ text ∧ ']' ∉ text

instance (text : List Char) : Decidable (Unbracketed text) :=
  inferInstanceAs (Decidable (_ ∧ _))

theorem unbracketed_append {text text' : List Char} :
    Unbracketed (text ++ text') ↔ Unbracketed text ∧ Unbracketed text' := by
  simp only [Unbracketed, List.mem_append]
  tauto

theorem unbracketed_cons {c : Char} (hopen : c ≠ '[') (hclose : c ≠ ']') :
    Unbracketed (c :: text) ↔ Unbracketed text := by
  simp only [Unbracketed, List.mem_cons, hopen.symm, hclose.symm, false_or]

/-- What is between the brackets is all but the first and the last character. -/
theorem eq_bracketed_iff (P : List Char → Prop) :
    text = '[' :: ((text.drop 1).dropLast ++ [']']) ∧ P (text.drop 1).dropLast ↔
      ∃ inside, text = '[' :: (inside ++ [']']) ∧ P inside := by
  constructor
  · rintro ⟨heq, hinside⟩
    exact ⟨_, heq, hinside⟩
  · rintro ⟨inside, rfl, hinside⟩
    have heq : (('[' :: (inside ++ [']'])).drop 1).dropLast = inside := by simp
    rw [heq]
    exact ⟨rfl, hinside⟩

/-- The text does not begin with a bracket, so the host is all before the last colon. -/
theorem netSplitHostPort_bare {text before port : List Char} (hcut : cutLast ':' text = some (before, port))
    (hhead : ∀ inside, text ≠ '[' :: inside) :
    netSplitHostPort text =
      if ':' ∈ before ∨ '[' ∈ text ∨ ']' ∈ text then none else some (before, port) := by
  unfold netSplitHostPort
  rw [hcut]
  dsimp only
  split
  · next inside => exact absurd rfl (hhead inside)
  · rfl

/-- **What `net.SplitHostPort` splits**: a host without colons and a port, or a host in brackets and a
    port; there are no other brackets, and no colon in the port. -/
theorem netSplitHostPort_eq_some_iff {text host port : List Char} :
    netSplitHostPort text = some (host, port) ↔
      (text = host ++ ':' :: port ∧ ':' ∉ host ∨ text = '[' :: (host ++ ']' :: ':' :: port)) ∧
        ':' ∉ port ∧ Unbracketed host ∧ Unbracketed port := by
  constructor
  · intro h
    cases hcut : cutLast ':' text with
    | none => simp [netSplitHostPort, hcut] at h
    | some pair =>
      obtain ⟨before, port'⟩ := pair
      obtain ⟨htext, hport⟩ := cutLast_eq_some_iff.1 hcut
      by_cases hhead : ∃ inside, text = '[' :: inside
      · obtain ⟨inside, hinside⟩ := hhead
        rw [hinside] at h hcut
        simp only [netSplitHostPort, hcut] at h
        cases hfirst : cutFirst ']' inside with
        | none => simp [hfirst] at h
        | some pair =>
          obtain ⟨host', behind⟩ := pair
          obtain ⟨rfl, hhost⟩ := cutFirst_eq_some_iff.1 hfirst
          simp only [hfirst, Option.ite_none_right_eq_some, Option.some.injEq,
            Prod.mk.injEq] at h
          obtain ⟨⟨rfl, hopen, hclose⟩, rfl, rfl⟩ := h
          simp only [List.mem_append, List.mem_cons, not_or] at hopen hclose
          exact ⟨.inr hinside, hport, ⟨hopen.1, hhost⟩, hopen.2.2.2, hclose.2⟩
      · rw [netSplitHostPort_bare hcut fun inside heq => hhead ⟨inside, heq⟩] at h
        simp only [Option.ite_none_left_eq_some, not_or, Option.some.injEq, Prod.mk.injEq] at h
        obtain ⟨⟨hbefore, hopen, hclose⟩, rfl, rfl⟩ := h
        rw [htext, List.mem_append, List.mem_cons, not_or, not_or] at hopen hclose
        exact ⟨.inl ⟨htext, hbefore⟩, hport, ⟨hopen.1, hclose.1⟩, hopen.2.2, hclose.2.2⟩
  · rintro ⟨⟨rfl, hhost⟩ | rfl, hport, hunhost, hunport⟩
    · have hcut : cutLast ':' (host ++ ':' :: port) = some (host, port) :=
        cutLast_eq_some_iff.2 ⟨rfl, hport⟩
      have hun : Unbracketed (host ++ ':' :: port) :=
        unbracketed_append.2 ⟨hunhost, (unbracketed_cons (by decide) (by decide)).2 hunport⟩
      have hhead : ∀ inside, host ++ ':' :: port ≠ '[' :: inside := by
        intro inside heq
        exact hun.1 (heq ▸ List.mem_cons_self ..)
      rw [netSplitHostPort_bare hcut hhead, if_neg]
      rintro (hmem | hmem | hmem)
      · exact hhost hmem
      · exact hun.1 hmem
      · exact hun.2 hmem
    · have hcut : cutLast ':' ('[' :: (host ++ ']' :: ':' :: port)) =
          some ('[' :: (host ++ [']']), port) :=
        cutLast_eq_some_iff.2 ⟨by simp, hport⟩
      have hfirst : cutFirst ']' (host ++ ']' :: ':' :: port) = some (host, ':' :: port) :=
        cutFirst_eq_some_iff.2 ⟨rfl, hunhost.2⟩
      simp only [netSplitHostPort, hcut, hfirst]
      rw [if_pos]
      refine ⟨trivial, ?_, ?_⟩
      · simp [hunhost.1, hunport.1]
      · simp [hunport.2]

/-- The host is shorter than the text it was split from. -/
theorem length_host_lt {text host port : List Char} (h : netSplitHostPort text = some (host, port)) :
    host.length < text.length := by
  obtain ⟨⟨rfl, -⟩ | rfl, -⟩ := netSplitHostPort_eq_some_iff.1 h
  · simp
  · simp only [List.length_cons, List.length_append]
    omega

/-! ## Ports -/

theorem digits_eq_some_iff {n : Nat} :
    digits text = some n ↔
      text ≠ [] ∧ (∀ c ∈ text, c.isDigit = true) ∧ Nat.ofDigitChars 10 text 0 = n := by
  cases text with
  | nil => simp [digits]
  | cons c text =>
    rw [digits, Option.ite_none_right_eq_some, Option.some.injEq, List.all_eq_true,
      Nat.ofDigitChars_eq_foldl]
    · simp
    · simp

theorem digits_itoa (n : Nat) : digits (itoa n) = some n := by
  rw [itoa, Nat.toString_eq_ofList_toDigits, String.toList_ofList]
  refine digits_eq_some_iff.2 ⟨Nat.toDigits_ne_nil, ?_, Nat.ofDigitChars_ten_toDigits⟩
  intro c hc
  exact Nat.isDigit_of_mem_toDigits (by decide) (by decide) hc

/-- The number is written with digits, or with digits behind a plus sign. -/
theorem atoi_eq_natCast_iff {n : Nat} (hpos : 0 < n) (hlt : n < 65536) :
    atoi text = some (n : Int) ↔
      digits text = some n ∨ ∃ rest, text = '+' :: rest ∧ digits rest = some n := by
  have hrange : (decide (-2 ^ 63 ≤ (n : Int)) && decide ((n : Int) < 2 ^ 63)) = true := by
    rw [Bool.and_eq_true, decide_eq_true_eq, decide_eq_true_eq]
    constructor <;> omega
  have hsign : ∀ c rest, digits (c :: rest) = some n → c.isDigit = true := by
    intro c rest h
    exact (digits_eq_some_iff.1 h).2.1 c (List.mem_cons_self ..)
  unfold atoi
  split
  · next rest =>
    -- a negative number is not positive, and a minus sign is no digit
    refine iff_of_false ?_ ?_
    · rw [Option.filter_eq_some_iff, Option.map_eq_some_iff]
      rintro ⟨⟨m, hm, heq⟩, -⟩
      obtain ⟨k, -, hk⟩ := Option.bind_eq_some_iff.1 hm
      have hkm : (k : Int) = m := Option.some.inj hk
      omega
    · rintro (h | ⟨rest', h, -⟩)
      · exact absurd (hsign _ _ h) (by decide)
      · simp at h
  · next rest =>
    rw [Option.filter_eq_some_iff, Option.map_eq_some_iff]
    constructor
    · rintro ⟨⟨m, hm, heq⟩, -⟩
      exact .inr ⟨rest, rfl, by rw [hm, Int.ofNat.inj heq]⟩
    · rintro (h | ⟨rest', heq, h⟩)
      · exact absurd (hsign _ _ h) (by decide)
      · obtain rfl := (List.cons.inj heq).2
        exact ⟨⟨n, h, rfl⟩, hrange⟩
  · next hminus hplus =>
    rw [Option.filter_eq_some_iff, Option.map_eq_some_iff]
    constructor
    · rintro ⟨⟨m, hm, heq⟩, -⟩
      exact .inl (by rw [hm, Int.ofNat.inj heq])
    · rintro (h | ⟨rest, heq, -⟩)
      · exact ⟨⟨n, h, rfl⟩, hrange⟩
      · exact absurd heq (hplus rest)

/-- A port in decimal digits. -/
def IsPort (text : List Char) (port : UInt16) : Prop := digits text = some port.toNat ∧ port ≠ 0

/-! ## `splitHostPort` -/

/-- The brackets that `splitHostPort` trims. -/
def isBracket (c : Char) : Bool := c = '[' || c = ']'

theorem Unbracketed.isBracket_eq_false (h : Unbracketed text) :
    ∀ c ∈ text, isBracket c = false := by
  intro c hc
  rw [isBracket, Bool.or_eq_false_iff, decide_eq_false_iff_not, decide_eq_false_iff_not]
  exact ⟨fun heq => h.1 (heq ▸ hc), fun heq => h.2 (heq ▸ hc)⟩

theorem trim_unbracketed (h : Unbracketed text) : trim isBracket text = text :=
  trim_eq_self h.isBracket_eq_false

theorem trim_bracketed (h : Unbracketed text) :
    trim isBracket ('[' :: (text ++ [']'])) = text := by
  have hall := h.isBracket_eq_false
  rw [trim, List.dropWhile_cons_of_pos (by decide)]
  cases text with
  | nil => rfl
  | cons c text =>
    have hc : ¬ isBracket c = true := by simp [hall c]
    have hreverse : ∀ d, (c :: text).reverse.head? = some d → isBracket d = false :=
      fun d hd => hall d (List.mem_reverse.1 (List.mem_of_head? hd))
    rw [List.cons_append, List.dropWhile_cons_of_neg hc, ← List.cons_append, List.reverse_append,
      List.reverse_singleton, List.singleton_append, List.dropWhile_cons_of_pos (by decide),
      dropWhile_eq_self_of_head hreverse, List.reverse_reverse]

theorem finish_eq_ok_iff {host text host' : List Char} {port : UInt16} :
    splitHostPort.finish host text = .ok (host', port) ↔
      host' = trim isBracket host ∧ atoi text = some (port.toNat : Int) ∧ port ≠ 0 := by
  unfold splitHostPort.finish
  cases atoi text with
  | none => simp
  | some n =>
    dsimp only
    split
    · next hrange =>
      refine iff_of_false (by simp) ?_
      rintro ⟨-, heq, hne⟩
      have hpos : port.toNat ≠ 0 := fun h => hne (UInt16.toNat_inj.1 h)
      have hlt := port.toNat_lt
      have hn : n = port.toNat := Option.some.inj heq
      omega
    · next hrange =>
      obtain ⟨hone, hmax⟩ := not_or.1 hrange
      have hsmall : n.toNat < 2 ^ 16 := by omega
      have hn : (n.toNat : Int) = n := Int.toNat_of_nonneg (by omega)
      rw [Except.ok.injEq, Prod.mk.injEq, Option.some.injEq]
      constructor
      · rintro ⟨rfl, rfl⟩
        have hport : (UInt16.ofNat n.toNat).toNat = n.toNat := UInt16.toNat_ofNat_of_lt hsmall
        refine ⟨rfl, by rw [hport, hn], ?_⟩
        intro hzero
        rw [hzero] at hport
        have : (0 : UInt16).toNat = 0 := rfl
        omega
      · rintro ⟨rfl, rfl, -⟩
        exact ⟨rfl, by rw [Int.toNat_natCast, UInt16.ofNat_toNat]⟩

variable {value v host text : List Char} {fallback : Nat} {port : UInt16}

/-- The port of a text that was split: digits, or digits behind a plus sign. -/
theorem atoi_port_iff (hne : port ≠ 0) : atoi text = some (port.toNat : Int) ↔
    IsPort text port ∨ ∃ rest, text = '+' :: rest ∧ IsPort rest port := by
  have hpos : 0 < port.toNat := by
    refine Nat.pos_of_ne_zero fun h => hne (UInt16.toNat_inj.1 h)
  rw [atoi_eq_natCast_iff hpos port.toNat_lt]
  simp only [IsPort, hne, ne_eq, not_false_eq_true, and_true]

theorem atoi_any_iff : (atoi text).any (fun n => 1 ≤ n && n ≤ 65535) = true ↔
    ∃ port, port ≠ 0 ∧ (IsPort text port ∨ ∃ rest, text = '+' :: rest ∧ IsPort rest port) := by
  rw [Option.any_eq_true]
  constructor
  · rintro ⟨n, hatoi, hrange⟩
    rw [Bool.and_eq_true, decide_eq_true_eq, decide_eq_true_eq] at hrange
    obtain ⟨m, rfl⟩ := Int.eq_ofNat_of_zero_le (by omega : 0 ≤ n)
    have hm : (UInt16.ofNat m).toNat = m := UInt16.toNat_ofNat_of_lt (show m < 2 ^ 16 by omega)
    have hne : UInt16.ofNat m ≠ 0 := by
      intro hzero
      have hzero := congrArg UInt16.toNat hzero
      rw [hm, UInt16.toNat_zero] at hzero
      omega
    exact ⟨UInt16.ofNat m, hne, (atoi_port_iff hne).1 (by rw [hm]; exact hatoi)⟩
  · rintro ⟨port, hne, hport⟩
    have hpos : port.toNat ≠ 0 := fun h => hne (UInt16.toNat_inj.1 h)
    have hlt := port.toNat_lt
    refine ⟨port.toNat, (atoi_port_iff hne).2 hport, ?_⟩
    rw [Bool.and_eq_true, decide_eq_true_eq, decide_eq_true_eq]
    omega

/-- What `splitHostPort` accepts, by the two ways it comes to a host and a port. -/
theorem splitHostPort_eq_ok_iff (hpos : 1 ≤ fallback) (hmax : fallback ≤ 65535)
    (hv : v = trim isSpace value) :
    splitHostPort value fallback = .ok (host, port) ↔
      (∃ text, netSplitHostPort v = some (host, text) ∧ port ≠ 0 ∧
        (IsPort text port ∨ ∃ rest, text = '+' :: rest ∧ IsPort rest port)) ∨
      netSplitHostPort v = none ∧ v ≠ [] ∧ v.count ':' ≠ 1 ∧ host = trim isBracket v ∧
        port.toNat = fallback := by
  unfold splitHostPort
  rw [← hv]
  dsimp only
  by_cases hnil : v = []
  · subst hnil
    simp [netSplitHostPort, cutLast, cutFirst]
  · rw [if_neg hnil]
    cases hsplit : netSplitHostPort v with
    | some pair =>
      obtain ⟨host', text⟩ := pair
      obtain ⟨-, -, hun, -⟩ := netSplitHostPort_eq_some_iff.1 hsplit
      dsimp only
      rw [finish_eq_ok_iff, trim_unbracketed hun]
      constructor
      · rintro ⟨rfl, hatoi, hne⟩
        exact .inl ⟨text, rfl, hne, (atoi_port_iff hne).1 hatoi⟩
      · rintro (⟨text', heq, hne, hport⟩ | ⟨hnone, -⟩)
        · cases heq
          exact ⟨rfl, (atoi_port_iff hne).2 hport, hne⟩
        · cases hnone
    | none =>
      dsimp only
      by_cases hcount : v.count ':' = 1
      · rw [if_pos hcount]
        simp [hcount]
      · rw [if_neg hcount, finish_eq_ok_iff]
        have hitoa : atoi (itoa fallback) = some (fallback : Int) :=
          (atoi_eq_natCast_iff (by omega) (by omega)).2 (.inl (digits_itoa fallback))
        rw [hitoa]
        constructor
        · rintro ⟨hhost, heq, hne⟩
          exact .inr ⟨rfl, hnil, hcount, hhost, (Int.ofNat.inj (Option.some.inj heq)).symm⟩
        · rintro (⟨text', heq, -⟩ | ⟨-, -, -, hhost, hport⟩)
          · cases heq
          · refine ⟨hhost, by rw [hport], ?_⟩
            rintro rfl
            have : (0 : UInt16).toNat = 0 := rfl
            omega

/-! ## Destinations -/

/-- The destinations of HTTP requests: the text, and the host and the port it stands for. -/
inductive Destination (fallback : Nat) : List Char → List Char → UInt16 → Prop where
  | host {host : List Char} {port : UInt16} (hne : host ≠ []) (hcolon : ':' ∉ host)
      (hun : Unbracketed host) (hport : port.toNat = fallback) : Destination fallback host host port
  | hostPort {host text : List Char} {port : UInt16} (hne : host ≠ []) (hcolon : ':' ∉ host)
      (hun : Unbracketed host) (hport : IsPort text port) :
      Destination fallback (host ++ ':' :: text) host port
  | ipv6 {host : List Char} {port : UInt16} (hip : IPAddress.isIPv6 host = true)
      (hport : port.toNat = fallback) : Destination fallback host host port
  | bracketed {host : List Char} {port : UInt16} (hip : IPAddress.isIPv6 host = true)
      (hport : port.toNat = fallback) : Destination fallback ('[' :: (host ++ [']'])) host port
  | bracketedPort {host text : List Char} {port : UInt16} (hip : IPAddress.isIPv6 host = true)
      (hport : IsPort text port) : Destination fallback ('[' :: (host ++ ']' :: ':' :: text)) host port

/-- An IPv6 address between brackets. -/
def bracketedIPv6 (v : List Char) : Bool :=
  decide (v = '[' :: ((v.drop 1).dropLast ++ [']'])) && IPAddress.isIPv6 (v.drop 1).dropLast

/-- A text without a port that is a destination: a host, or an IPv6 address. -/
def portless (v : List Char) : Bool :=
  decide (':' ∉ v ∧ Unbracketed v) || IPAddress.isIPv6 v || bracketedIPv6 v

/-- What `splitHostPort` accepts and should not. Where `net.SplitHostPort` splits: an empty host, a
    plus sign before the port, brackets around something that is no IPv6 address. Where it does not:
    brackets or colons in a text that is no IPv6 address, but not a single colon. -/
def overlooked (v : List Char) : Bool :=
  match netSplitHostPort v with
  | some (host, text) =>
    (atoi text).any (fun n => 1 ≤ n && n ≤ 65535) &&
      (decide (host = []) || decide (text.head? = some '+') ||
        decide (v.head? = some '[') && !IPAddress.isIPv6 host)
  | none => decide (v ≠ []) && decide (v.count ':' ≠ 1) && !portless v

theorem unbracketed_of_isIPv6 (h : IPAddress.isIPv6 host = true) : Unbracketed host :=
  ⟨IPAddress.not_mem_of_isIPv6 (by decide) h, IPAddress.not_mem_of_isIPv6 (by decide) h⟩

theorem ne_nil_of_isIPv6 (h : IPAddress.isIPv6 host = true) : host ≠ [] := by
  rintro rfl
  exact absurd (IPAddress.isIPv6_spec h).2 (by decide)

theorem IsPort.forall_isDigit (h : IsPort text port) : ∀ c ∈ text, c.isDigit = true :=
  (digits_eq_some_iff.1 h.1).2.1

theorem IsPort.not_mem (h : IsPort text port) {c : Char} (hc : c.isDigit = false) : c ∉ text := by
  intro hmem
  rw [h.forall_isDigit c hmem] at hc
  cases hc

theorem IsPort.head_ne (h : IsPort text port) : text.head? ≠ some '+' := by
  intro hhead
  exact h.not_mem (c := '+') (by decide) (List.mem_of_head? hhead)

theorem netSplitHostPort_noColon (h : ':' ∉ v) : netSplitHostPort v = none := by
  rw [netSplitHostPort, cutLast_eq_none_iff.2 h]

theorem netSplitHostPort_isIPv6 (h : IPAddress.isIPv6 v = true) : netSplitHostPort v = none := by
  rw [Option.eq_none_iff_forall_ne_some]
  rintro ⟨host, text⟩ hsplit
  obtain ⟨⟨rfl, hhost⟩ | rfl, htext, -⟩ := netSplitHostPort_eq_some_iff.1 hsplit
  · have hcount := (IPAddress.isIPv6_spec h).2
    rw [List.count_append, List.count_cons_self, List.count_eq_zero.2 hhost,
      List.count_eq_zero.2 htext] at hcount
    omega
  · exact (unbracketed_of_isIPv6 h).1 (List.mem_cons_self ..)

theorem netSplitHostPort_bracketed (h : Unbracketed host) :
    netSplitHostPort ('[' :: (host ++ [']'])) = none := by
  rw [Option.eq_none_iff_forall_ne_some]
  rintro ⟨host', text⟩ hsplit
  obtain ⟨⟨heq, -⟩ | heq, -, hun, -⟩ := netSplitHostPort_eq_some_iff.1 hsplit
  · -- the text begins with a bracket, and the host has none
    cases host' with
    | nil => simp at heq
    | cons c host' =>
      rw [List.cons_append] at heq
      exact hun.1 ((List.cons.inj heq).1 ▸ List.mem_cons_self ..)
  · -- the first closing bracket is the last character
    have hcut := cutFirst_eq_some_iff.2 ⟨(List.cons.inj heq).2, hun.2⟩
    rw [cutFirst_eq_some_iff.2 ⟨rfl, h.2⟩] at hcut
    simp at hcut

theorem bracketedIPv6_iff :
    bracketedIPv6 v = true ↔ ∃ host, v = '[' :: (host ++ [']']) ∧ IPAddress.isIPv6 host = true := by
  rw [bracketedIPv6, Bool.and_eq_true, decide_eq_true_eq]
  exact eq_bracketed_iff (IPAddress.isIPv6 · = true)

theorem portless_iff :
    portless v = true ↔ ':' ∉ v ∧ Unbracketed v ∨ IPAddress.isIPv6 v = true ∨
      ∃ host, v = '[' :: (host ++ [']']) ∧ IPAddress.isIPv6 host = true := by
  rw [portless, Bool.or_eq_true, Bool.or_eq_true, decide_eq_true_eq, bracketedIPv6_iff, or_assoc]

/-- The destinations by what `net.SplitHostPort` makes of them. -/
theorem destination_iff : Destination fallback v host port ↔
    (∃ text, netSplitHostPort v = some (host, text) ∧ IsPort text port ∧ host ≠ [] ∧
      (v.head? = some '[' → IPAddress.isIPv6 host = true)) ∨
    netSplitHostPort v = none ∧ v ≠ [] ∧ portless v = true ∧ host = trim isBracket v ∧
      port.toNat = fallback := by
  constructor
  · intro h
    cases h with
    | host hne hcolon hun hport =>
      exact .inr ⟨netSplitHostPort_noColon hcolon, hne, portless_iff.2 (.inl ⟨hcolon, hun⟩),
        (trim_unbracketed hun).symm, hport⟩
    | @hostPort _ text _ hne hcolon hun hport =>
      refine .inl ⟨text, ?_, hport, hne, ?_⟩
      · exact netSplitHostPort_eq_some_iff.2 ⟨.inl ⟨rfl, hcolon⟩, hport.not_mem (by decide), hun,
          hport.not_mem (by decide), hport.not_mem (by decide)⟩
      · intro hhead
        rw [List.head?_append_of_ne_nil _ hne] at hhead
        exact absurd (List.mem_of_head? hhead) hun.1
    | ipv6 hip hport =>
      exact .inr ⟨netSplitHostPort_isIPv6 hip, ne_nil_of_isIPv6 hip,
        portless_iff.2 (.inr (.inl hip)), (trim_unbracketed (unbracketed_of_isIPv6 hip)).symm, hport⟩
    | bracketed hip hport =>
      have hun := unbracketed_of_isIPv6 hip
      exact .inr ⟨netSplitHostPort_bracketed hun, List.cons_ne_nil _ _,
        portless_iff.2 (.inr (.inr ⟨_, rfl, hip⟩)), (trim_bracketed hun).symm, hport⟩
    | @bracketedPort _ text _ hip hport =>
      refine .inl ⟨text, ?_, hport, ne_nil_of_isIPv6 hip, fun _ => hip⟩
      exact netSplitHostPort_eq_some_iff.2 ⟨.inr rfl, hport.not_mem (by decide),
        unbracketed_of_isIPv6 hip, hport.not_mem (by decide), hport.not_mem (by decide)⟩
  · rintro (⟨text, hsplit, hport, hne, hhead⟩ | ⟨-, hne, hportless, rfl, hport⟩)
    · obtain ⟨⟨rfl, hcolon⟩ | rfl, -, hun, -⟩ := netSplitHostPort_eq_some_iff.1 hsplit
      · exact .hostPort hne hcolon hun hport
      · exact .bracketedPort (hhead rfl) hport
    · rcases portless_iff.1 hportless with ⟨hcolon, hun⟩ | hip | ⟨host, rfl, hip⟩
      · rw [trim_unbracketed hun]
        exact .host hne hcolon hun hport
      · rw [trim_unbracketed (unbracketed_of_isIPv6 hip)]
        exact .ipv6 hip hport
      · rw [trim_bracketed (unbracketed_of_isIPv6 hip)]
        exact .bracketed hip hport

/-- A text without a port that is a destination has no colon or several. -/
theorem count_ne_one_of_portless (h : portless v = true) : v.count ':' ≠ 1 := by
  rcases portless_iff.1 h with ⟨hcolon, -⟩ | hip | ⟨host, rfl, hip⟩
  · rw [List.count_eq_zero.2 hcolon]
    decide
  · have hcount := (IPAddress.isIPv6_spec hip).2
    omega
  · have hcount := (IPAddress.isIPv6_spec hip).2
    rw [List.count_cons_of_ne (by decide), List.count_append]
    omega

theorem splitHostPort_of_destination (hpos : 1 ≤ fallback) (hmax : fallback ≤ 65535)
    (hv : v = trim isSpace value) (h : Destination fallback v host port) :
    splitHostPort value fallback = .ok (host, port) := by
  refine (splitHostPort_eq_ok_iff hpos hmax hv).2 ?_
  rcases destination_iff.1 h with ⟨text, hsplit, hport, -⟩ | ⟨hnone, hne, hportless, hhost, hport⟩
  · exact .inl ⟨text, hsplit, hport.2, .inl hport⟩
  · exact .inr ⟨hnone, hne, count_ne_one_of_portless hportless, hhost, hport⟩

theorem not_overlooked_of_destination (h : Destination fallback v host port) :
    overlooked v = false := by
  unfold overlooked
  rcases destination_iff.1 h with ⟨text, hsplit, hport, hne, hhead⟩ | ⟨hnone, -, hportless, -⟩
  · rw [hsplit]
    have hplus := hport.head_ne
    by_cases hbracket : v.head? = some '['
    · simp [hne, hplus, hhead hbracket]
    · simp [hne, hplus, hbracket]
  · rw [hnone]
    simp [hportless]

theorem destination_of_splitHostPort (hpos : 1 ≤ fallback) (hmax : fallback ≤ 65535)
    (hv : v = trim isSpace value) (hover : overlooked v = false)
    (h : splitHostPort value fallback = .ok (host, port)) : Destination fallback v host port := by
  unfold overlooked at hover
  rw [destination_iff]
  rcases (splitHostPort_eq_ok_iff hpos hmax hv).1 h with
    ⟨text, hsplit, hne, hport⟩ | ⟨hnone, hne, hcount, hhost, hport⟩
  · have hany := atoi_any_iff.2 ⟨port, hne, hport⟩
    simp only [hsplit, hany, Bool.true_and, Bool.or_eq_false_iff, decide_eq_false_iff_not] at hover
    obtain ⟨⟨hhost, hplus⟩, hbracket⟩ := hover
    refine .inl ⟨text, hsplit, ?_, hhost, ?_⟩
    · rcases hport with hport | ⟨rest, rfl, -⟩
      · exact hport
      · exact absurd rfl hplus
    · intro hhead
      simpa [hhead] using hbracket
  · rw [hnone] at hover
    exact .inr ⟨hnone, hne, by simpa [hne, hcount] using hover, hhost, hport⟩

theorem splitHostPort_of_overlooked (hpos : 1 ≤ fallback) (hmax : fallback ≤ 65535)
    (hv : v = trim isSpace value) (hover : overlooked v = true) :
    ∃ host port, splitHostPort value fallback = .ok (host, port) := by
  unfold overlooked at hover
  simp only [splitHostPort_eq_ok_iff hpos hmax hv]
  split at hover
  · next host text hsplit =>
    rw [Bool.and_eq_true] at hover
    obtain ⟨port, hne, hport⟩ := atoi_any_iff.1 hover.1
    exact ⟨host, port, .inl ⟨text, hsplit, hne, hport⟩⟩
  · next hnone =>
    simp only [Bool.and_eq_true, decide_eq_true_eq] at hover
    exact ⟨_, UInt16.ofNat fallback, .inr ⟨hnone, hover.1.1, hover.1.2, rfl,
      UInt16.toNat_ofNat_of_lt (show fallback < 2 ^ 16 by omega)⟩⟩

/-- **What `splitHostPort` accepts.** For every text and every default port, the destinations are
    accepted with the host and the port they stand for, and they are all that is accepted exactly if
    the trimmed text is not one that is overlooked. -/
theorem splitHostPort_iff_destination_iff (hpos : 1 ≤ fallback) (hmax : fallback ≤ 65535)
    (value : List Char) :
    (∀ host port, Destination fallback (trim isSpace value) host port →
      splitHostPort value fallback = .ok (host, port)) ∧
    ((∀ host port, splitHostPort value fallback = .ok (host, port) ↔
      Destination fallback (trim isSpace value) host port) ↔
        overlooked (trim isSpace value) = false) := by
  refine ⟨fun _ _ => splitHostPort_of_destination hpos hmax rfl, ?_⟩
  constructor
  · intro hiff
    by_contra hover
    rw [Bool.not_eq_false] at hover
    obtain ⟨host, port, hsplit⟩ := splitHostPort_of_overlooked hpos hmax rfl hover
    rw [not_overlooked_of_destination ((hiff host port).1 hsplit)] at hover
    cases hover
  · intro hover host port
    exact ⟨destination_of_splitHostPort hpos hmax rfl hover,
      splitHostPort_of_destination hpos hmax rfl⟩

theorem splitHostPort_hostPort :
    splitHostPort " example.org:8080 ".toList 443 = .ok ("example.org".toList, 8080) ∧
      ∀ host port, splitHostPort " example.org:8080 ".toList 443 = .ok (host, port) ↔
        Destination 443 (trim isSpace " example.org:8080 ".toList) host port :=
  ⟨by decide +kernel, (splitHostPort_iff_destination_iff (by decide) (by decide) _).2.2
    (by decide +kernel)⟩

/-- No host, a sign, a name in brackets with and without a port, nothing in brackets, two colons. -/
theorem splitHostPort_overlooks :
    splitHostPort ":80".toList 443 = .ok ([], 80) ∧
      splitHostPort "host:+80".toList 443 = .ok ("host".toList, 80) ∧
      splitHostPort "[host]:80".toList 443 = .ok ("host".toList, 80) ∧
      splitHostPort "[host]".toList 443 = .ok ("host".toList, 443) ∧
      splitHostPort "[]".toList 443 = .ok ([], 443) ∧
      splitHostPort "a:b:c".toList 443 = .ok ("a:b:c".toList, 443) ∧
      ∀ v ∈ [":80", "host:+80", "[host]:80", "[host]", "[]", "a:b:c"], ∀ host port,
        ¬ Destination 443 v.toList host port := by
  refine ⟨by decide +kernel, by decide +kernel, by decide +kernel, by decide +kernel,
    by decide +kernel, by decide +kernel, ?_⟩
  have hover : ∀ v ∈ [":80", "host:+80", "[host]:80", "[host]", "[]", "a:b:c"],
      overlooked v.toList = true := by decide +kernel
  intro v hv host port hdestination
  have hnot := not_overlooked_of_destination hdestination
  rw [hover v hv] at hnot
  cases hnot

end LnProxy.Proxy
