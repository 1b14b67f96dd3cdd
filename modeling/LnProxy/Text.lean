import Mathlib.Data.List.Basic

set_option autoImplicit false

/-! # Strings as lists of code points (`strings`, `unicode`, `strconv`) -/

namespace LnProxy

/-- `unicode.IsSpace`. -/
def isSpace (c : Char) : Bool :=
  c.toNat ∈ [9, 10, 11, 12, 13, 32, 0x85, 0xA0, 0x1680, 0x2028, 0x2029, 0x202F, 0x205F, 0x3000] ||
    (0x2000 ≤ c.toNat && c.toNat ≤ 0x200A)

/-- Drop the characters in `set` from both ends. -/
def trim (set : Char → Bool) (text : List Char) : List Char :=
  ((text.dropWhile set).reverse.dropWhile set).reverse

/-- `strconv.IsPrint` up to U+00FF; the code points above all count as printable here. -/
def isPrint (c : Char) : Bool :=
  (0x20 ≤ c.toNat && c.toNat < 0x7F) || (0xA1 ≤ c.toNat && c.toNat ≠ 0xAD)

/-- A code point as `%q` writes it. -/
def escaped (c : Char) : List Char :=
  let backslash : Char := '\x5c'
  let hex (width : Nat) : List Char := (Nat.toDigits 16 c.toNat).leftpad width '0'
  if c = '\x22' ∨ c = backslash then [backslash, c]
  else if isPrint c then [c]
  else match c.toNat with
    | 7 => [backslash, 'a']
    | 8 => [backslash, 'b']
    | 9 => [backslash, 't']
    | 10 => [backslash, 'n']
    | 11 => [backslash, 'v']
    | 12 => [backslash, 'f']
    | 13 => [backslash, 'r']
    | n => if n < 0x20 ∨ n = 0x7F then backslash :: 'x' :: hex 2 else backslash :: 'u' :: hex 4

/-- `%q` (`strconv.Quote`). -/
def quoted (text : String) : String :=
  String.ofList ('\x22' :: text.toList.flatMap escaped ++ ['\x22'])

theorem dropWhile_eq_self_of_head {set : Char → Bool} {text : List Char}
    (h : ∀ c, text.head? = some c → set c = false) : text.dropWhile set = text := by
  cases text with
  | nil => rfl
  | cons c text => rw [List.dropWhile_cons_of_neg (by simp [h c rfl])]

/-- A text that begins and ends with characters outside `set` is left as it is. -/
theorem trim_eq_self_of_ends {set : Char → Bool} {text : List Char}
    (hhead : ∀ c, text.head? = some c → set c = false)
    (hlast : ∀ c, text.getLast? = some c → set c = false) : trim set text = text := by
  have hreverse : ∀ c, text.reverse.head? = some c → set c = false := by
    simpa only [List.head?_reverse] using hlast
  rw [trim, dropWhile_eq_self_of_head hhead, dropWhile_eq_self_of_head hreverse, List.reverse_reverse]

theorem trim_eq_self {set : Char → Bool} {text : List Char} (h : ∀ c ∈ text, set c = false) :
    trim set text = text :=
  trim_eq_self_of_ends (fun c hc => h c (List.mem_of_head? hc))
    (fun c hc => h c (List.mem_of_getLast? hc))

theorem head?_dropWhile {set : Char → Bool} {text : List Char} {c : Char}
    (h : (text.dropWhile set).head? = some c) : set c = false := by
  have hnot := List.head?_dropWhile_not set text
  rwa [h] at hnot

/-- A trimmed text begins and ends with characters outside `set`. -/
theorem trim_ends (set : Char → Bool) (text : List Char) :
    (∀ c, (trim set text).head? = some c → set c = false) ∧
      ∀ c, (trim set text).getLast? = some c → set c = false := by
  constructor
  · intro c hc
    -- what is trimmed at the end leaves the head
    obtain ⟨rest, hrest⟩ : trim set text <+: text.dropWhile set := by
      rw [← List.reverse_suffix, trim, List.reverse_reverse]
      exact List.dropWhile_suffix set
    refine @head?_dropWhile set text c ?_
    rw [← hrest, List.head?_append, hc, Option.some_or]
  · intro c hc
    rw [trim, List.getLast?_reverse] at hc
    exact head?_dropWhile hc

theorem trim_trim (set : Char → Bool) (text : List Char) :
    trim set (trim set text) = trim set text := by
  obtain ⟨hhead, hlast⟩ := trim_ends set text
  exact trim_eq_self_of_ends hhead hlast

end LnProxy
