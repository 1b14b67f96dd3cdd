import Mathlib.Data.List.Basic

set_option autoImplicit false

/-! # IPv6 addresses as texts

An address is eight groups of at most four hexadecimal digits with colons between them. One run of
groups that are zero may be left out, which leaves two colons, and the last two groups may be written
as an IPv4 address. An address has no other characters, and at least two colons. -/

namespace IPAddress

def isHexDigit (c : Char) : Bool :=
  c.isDigit || decide ('a' ≤ c ∧ c ≤ 'f') || decide ('A' ≤ c ∧ c ≤ 'F')

/-- A number below 256 without leading zeros. -/
def isOctet (text : List Char) : Bool :=
  text.all Char.isDigit &&
    decide (1 ≤ text.length ∧ text.length ≤ 3 ∧ (text.head? = some '0' → text.length = 1) ∧
      Nat.ofDigitChars 10 text 0 < 256)

def isIPv4 (text : List Char) : Bool :=
  (text.splitOn '.').length == 4 && (text.splitOn '.').all isOctet

def isGroup (text : List Char) : Bool :=
  text.all isHexDigit && decide (1 ≤ text.length ∧ text.length ≤ 4)

/-- How many groups the fields stand for: the last one may be an IPv4 address, which stands for
    two. -/
def width : List (List Char) → Option Nat
  | [] => some 0
  | [last] => if isGroup last then some 1 else if isIPv4 last then some 2 else none
  | field :: fields => if isGroup field then (width fields).map (· + 1) else none

/-- The fields of one side of the two colons, which may be empty. -/
def fieldsOf (text : List Char) : List (List Char) :=
  if text = [] then [] else text.splitOn ':'

/-- The text before and behind the first two colons. -/
def cutDouble : List Char → Option (List Char × List Char)
  | [] => none
  | [_] => none
  | c :: d :: text =>
    if c = ':' ∧ d = ':' then some ([], text)
    else (cutDouble (d :: text)).map fun (before, after) => (c :: before, after)

def isIPv6 (text : List Char) : Bool :=
  match cutDouble text with
  | none => width (text.splitOn ':') == some 8
  | some (before, after) =>
    (fieldsOf before).all isGroup &&
      (width (fieldsOf after)).any fun n => (fieldsOf before).length + n ≤ 7

example : isIPv6 "2001:db8::68".toList = true ∧ isIPv6 "::ffff:192.0.2.1".toList = true ∧
    isIPv6 "1::2::3".toList = false ∧ isIPv6 "1:2:3".toList = false := by decide +kernel

/-! ## Splitting -/

section Split
variable {α : Type} [DecidableEq α] {sep : α} {text : List α}

/-- The characters of a text are those of its fields and the separator. -/
theorem forall_mem_of_splitOn {P : α → Prop} (hsep : P sep)
    (h : ∀ field ∈ text.splitOn sep, ∀ c ∈ field, P c) : ∀ c ∈ text, P c := by
  have hjoin : ∀ fields : List (List α), (∀ field ∈ fields, ∀ c ∈ field, P c) →
      ∀ c ∈ [sep].intercalate fields, P c := by
    intro fields hfields
    induction fields with
    | nil => simp
    | cons field fields ih =>
      cases fields with
      | nil =>
        intro c hc
        exact hfields field (List.mem_cons_self ..) c (by simpa using hc)
      | cons next fields =>
        intro c hc
        rw [List.intercalate_cons_cons] at hc
        simp only [List.mem_append, List.mem_singleton] at hc
        rcases hc with (hc | rfl) | hc
        · exact hfields field (List.mem_cons_self ..) c hc
        · exact hsep
        · exact ih (fun f hf => hfields f (List.mem_cons_of_mem _ hf)) c hc
  intro c hc
  rw [← @List.intercalate_splitOn _ text _ _ sep] at hc
  exact hjoin _ h c hc

theorem length_splitOn_le : (text.splitOn sep).length ≤ text.count sep + 1 := by
  have hjoin : ∀ fields : List (List α),
      fields.length ≤ ([sep].intercalate fields).count sep + 1 := by
    intro fields
    induction fields with
    | nil => simp
    | cons field fields ih =>
      cases fields with
      | nil => simp
      | cons next fields =>
        rw [List.intercalate_cons_cons, List.count_append, List.count_append,
          List.count_singleton_self, List.length_cons]
        omega
  have hle := hjoin (text.splitOn sep)
  rwa [List.intercalate_splitOn] at hle

end Split

variable {text : List Char}

theorem cutDouble_eq_some {text before after : List Char}
    (h : cutDouble text = some (before, after)) : text = before ++ ':' :: ':' :: after := by
  induction text generalizing before with
  | nil => simp [cutDouble] at h
  | cons c text ih =>
    cases text with
    | nil => simp [cutDouble] at h
    | cons d text =>
      rw [cutDouble] at h
      split at h
      · next hcd =>
        simp only [Option.some.injEq, Prod.mk.injEq] at h
        obtain ⟨rfl, rfl⟩ := h
        rw [hcd.1, hcd.2, List.nil_append]
      · simp only [Option.map_eq_some_iff, Prod.exists, Prod.mk.injEq] at h
        obtain ⟨before', after', hcut, rfl, rfl⟩ := h
        rw [ih hcut, List.cons_append]

/-! ## The characters of an address -/

/-- The characters an address is written with. -/
def Allowed (c : Char) : Prop := isHexDigit c = true ∨ c = '.' ∨ c = ':'

theorem isIPv4_spec (h : isIPv4 text = true) :
    ∀ c ∈ text, c.isDigit = true ∨ c = '.' := by
  rw [isIPv4, Bool.and_eq_true, List.all_eq_true] at h
  refine forall_mem_of_splitOn (.inr rfl) fun field hfield c hc => ?_
  have hoctet := h.2 field hfield
  rw [isOctet, Bool.and_eq_true, List.all_eq_true] at hoctet
  exact .inl (hoctet.1 c hc)

theorem allowed_of_isIPv4 (h : isIPv4 text = true) : ∀ c ∈ text, Allowed c := by
  intro c hc
  rcases isIPv4_spec h c hc with hdigit | hdot
  · refine .inl ?_
    simp [isHexDigit, hdigit]
  · exact .inr (.inl hdot)

theorem allowed_of_isGroup (h : isGroup text = true) :
    ∀ c ∈ text, Allowed c := by
  rw [isGroup, Bool.and_eq_true, List.all_eq_true] at h
  intro c hc
  exact .inl (h.1 c hc)

theorem width_eq_some {fields : List (List Char)} {n : Nat} (h : width fields = some n) :
    n ≤ fields.length + 1 ∧ ∀ field ∈ fields, ∀ c ∈ field, Allowed c := by
  induction fields generalizing n with
  | nil =>
    simp only [width, Option.some.injEq] at h
    exact ⟨by omega, List.forall_mem_nil _⟩
  | cons field fields ih =>
    cases fields with
    | nil =>
      simp only [width] at h
      rw [List.forall_mem_singleton]
      split at h
      · next hgroup =>
        cases h
        exact ⟨by simp, allowed_of_isGroup hgroup⟩
      · simp only [Option.ite_none_right_eq_some, Option.some.injEq] at h
        obtain ⟨hipv4, rfl⟩ := h
        exact ⟨by simp, allowed_of_isIPv4 hipv4⟩
    | cons next fields =>
      simp only [width, Option.ite_none_right_eq_some, Option.map_eq_some_iff] at h
      obtain ⟨hgroup, m, hwidth, rfl⟩ := h
      obtain ⟨hle, hall⟩ := ih hwidth
      rw [List.forall_mem_cons]
      exact ⟨by simpa using hle, allowed_of_isGroup hgroup, hall⟩

theorem allowed_of_fieldsOf
    (h : ∀ field ∈ fieldsOf text, ∀ c ∈ field, Allowed c) : ∀ c ∈ text, Allowed c := by
  unfold fieldsOf at h
  split at h
  · next hnil =>
    rw [hnil]
    exact List.forall_mem_nil _
  · exact forall_mem_of_splitOn (.inr (.inr rfl)) h

/-- **The form of an address**: hexadecimal digits, dots and colons, of which there are at least
    two. -/
theorem isIPv6_spec (h : isIPv6 text = true) :
    (∀ c ∈ text, Allowed c) ∧ 2 ≤ text.count ':' := by
  unfold isIPv6 at h
  split at h
  · obtain ⟨hle, hall⟩ := width_eq_some (eq_of_beq h)
    have hcount := @length_splitOn_le _ _ ':' text
    exact ⟨forall_mem_of_splitOn (.inr (.inr rfl)) hall, by omega⟩
  · next before after hcut =>
    simp only [Bool.and_eq_true, List.all_eq_true, Option.any_eq_true] at h
    obtain ⟨hbefore, n, hafter, -⟩ := h
    have hallBefore := allowed_of_fieldsOf fun field hfield => allowed_of_isGroup (hbefore field hfield)
    have hallAfter := allowed_of_fieldsOf (width_eq_some hafter).2
    rw [cutDouble_eq_some hcut]
    constructor
    · intro c hc
      simp only [List.mem_append, List.mem_cons] at hc
      rcases hc with hc | rfl | rfl | hc
      · exact hallBefore c hc
      · exact .inr (.inr rfl)
      · exact .inr (.inr rfl)
      · exact hallAfter c hc
    · rw [List.count_append, List.count_cons_self, List.count_cons_self]
      omega

theorem not_mem_of_isIPv6 {c : Char} (hc : ¬ Allowed c)
    (h : isIPv6 text = true) : c ∉ text :=
  fun hmem => hc ((isIPv6_spec h).1 c hmem)

instance (c : Char) : Decidable (Allowed c) := inferInstanceAs (Decidable (_ ∨ _ ∨ _))

end IPAddress
