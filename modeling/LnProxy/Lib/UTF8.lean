import Mathlib.Data.List.Basic

set_option autoImplicit false

/-! # Byte strings as text

A byte string is valid UTF-8 if it encodes some text. `coerce` reads any byte string as text: it
decodes characters from the front, and takes a byte at which no character begins for the replacement
character. It gives back the text that was encoded, so a byte string survives being read as text and
encoded again exactly if it is valid. -/

namespace UTF8

def encode (text : List Char) : List UInt8 := text.flatMap String.utf8EncodeChar

/-- The byte string encodes some text. -/
def Valid (bytes : List UInt8) : Prop := ∃ text, encode text = bytes

/-- The character at the front of the byte string. -/
def decodeChar (bytes : List UInt8) : Option Char := bytes.toByteArray.utf8DecodeChar? 0

/-- The replacement character, U+FFFD. -/
def replacement : Char := Char.ofNat 0xFFFD

/-- The text of a byte string whose first `n` bytes belong to a character that has been read. -/
def coerceFrom : Nat → List UInt8 → List Char
  | _, [] => []
  | 0, b :: rest =>
    match decodeChar (b :: rest) with
    | some c => c :: coerceFrom (c.utf8Size - 1) rest
    | none => replacement :: coerceFrom 0 rest
  | n + 1, _ :: rest => coerceFrom n rest

def coerce (bytes : List UInt8) : List Char := coerceFrom 0 bytes

/-- The bytes in a message. -/
def shown (bytes : List UInt8) : String := String.ofList (coerce bytes)

/-! ## Encoding and reading back -/

@[simp] theorem encode_cons (c : Char) (text : List Char) :
    encode (c :: text) = String.utf8EncodeChar c ++ encode text := rfl

theorem decodeChar_encodeChar_append (c : Char) (rest : List UInt8) :
    decodeChar (String.utf8EncodeChar c ++ rest) = some c := by
  unfold decodeChar
  rw [List.toByteArray_append]
  exact ByteArray.utf8DecodeChar?_utf8EncodeChar_append

theorem coerceFrom_append (done rest : List UInt8) :
    coerceFrom done.length (done ++ rest) = coerceFrom 0 rest := by
  induction done with
  | nil => rfl
  | cons b done ih => exact ih

theorem coerce_encode (text : List Char) : coerce (encode text) = text := by
  induction text with
  | nil => rfl
  | cons c text ih =>
    have hdecode := decodeChar_encodeChar_append c (encode text)
    have hlength : (String.utf8EncodeChar c).length = c.utf8Size := String.length_utf8EncodeChar c
    rw [encode_cons]
    cases hbytes : String.utf8EncodeChar c with
    | nil =>
      rw [hbytes, List.length_nil] at hlength
      exact absurd hlength.symm (Nat.ne_of_gt c.utf8Size_pos)
    | cons b done =>
      rw [hbytes] at hdecode hlength
      have hdone : c.utf8Size - 1 = done.length := by
        rw [← hlength, List.length_cons]
        omega
      unfold coerce
      rw [List.cons_append] at hdecode ⊢
      rw [coerceFrom, hdecode]
      show c :: coerceFrom (c.utf8Size - 1) (done ++ encode text) = c :: text
      rw [hdone, coerceFrom_append]
      exact congrArg (c :: ·) ih

/-- **Exactly the valid byte strings survive.** -/
theorem encode_coerce_iff {bytes : List UInt8} : encode (coerce bytes) = bytes ↔ Valid bytes := by
  constructor
  · intro h
    exact ⟨coerce bytes, h⟩
  · rintro ⟨text, rfl⟩
    rw [coerce_encode]

/-- Only nothing becomes nothing. -/
theorem encode_coerce_eq_nil {bytes : List UInt8} : encode (coerce bytes) = [] ↔ bytes = [] := by
  constructor
  · intro h
    match bytes with
    | [] => rfl
    | b :: rest =>
      obtain ⟨c, text, htext⟩ : ∃ c text, coerce (b :: rest) = c :: text := by
        unfold coerce
        rw [coerceFrom]
        cases decodeChar (b :: rest) with
        | none => exact ⟨_, _, rfl⟩
        | some c => exact ⟨_, _, rfl⟩
      have hlength := congrArg List.length h
      rw [htext, encode_cons, List.length_append, String.length_utf8EncodeChar] at hlength
      have hpos := c.utf8Size_pos
      rw [List.length_nil] at hlength
      omega
  · rintro rfl
    rfl

/-! ## ASCII -/

theorem encodeChar_ascii {b : UInt8} (h : b.toNat < 128) :
    String.utf8EncodeChar (Char.ofNat b.toNat) = [b] := by
  have hforall : ∀ n < 128, String.utf8EncodeChar (Char.ofNat n) = [UInt8.ofNat n] := by decide +kernel
  rw [hforall b.toNat h, UInt8.ofNat_toNat]

theorem valid_of_ascii {bytes : List UInt8} (h : ∀ b ∈ bytes, b.toNat < 128) : Valid bytes := by
  refine ⟨bytes.map fun b => Char.ofNat b.toNat, ?_⟩
  induction bytes with
  | nil => rfl
  | cons b bytes ih =>
    rw [List.map_cons, encode_cons, encodeChar_ascii (h b (List.mem_cons_self ..)),
      ih fun b' hb' => h b' (List.mem_cons_of_mem _ hb')]
    rfl

end UTF8
