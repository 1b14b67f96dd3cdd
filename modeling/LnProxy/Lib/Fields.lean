import Mathlib.Data.Nat.Digits.Defs

set_option autoImplicit false

/-! # Records of byte strings

A list of byte strings is written as one: each byte has a mark before it, and each string an end. What
is written is read back, with anything behind it. Integers are fields too, a sign and the digits to
the base 256. -/

namespace Fields

def write (field : List UInt8) : List UInt8 := field.flatMap (fun b => [1, b]) ++ [0]

/-- The field at the front, and what is behind it. -/
def read : List UInt8 → List UInt8 × List UInt8
  | 1 :: b :: rest =>
    let (field, behind) := read rest
    (b :: field, behind)
  | _ :: rest => ([], rest)
  | [] => ([], [])

theorem read_write (field rest : List UInt8) : read (write field ++ rest) = (field, rest) := by
  induction field with
  | nil => rfl
  | cons b field ih =>
    have hcons : write (b :: field) ++ rest = 1 :: b :: (write field ++ rest) := rfl
    rw [hcons, read, ih]

def writeAll (fields : List (List UInt8)) : List UInt8 := fields.flatMap write

/-- The first `n` fields. -/
def readAll : Nat → List UInt8 → List (List UInt8)
  | 0, _ => []
  | n + 1, data => (read data).1 :: readAll n (read data).2

theorem readAll_writeAll (fields : List (List UInt8)) (rest : List UInt8) :
    readAll fields.length (writeAll fields ++ rest) = fields := by
  induction fields with
  | nil => rfl
  | cons field fields ih =>
    have hcons : writeAll (field :: fields) ++ rest = write field ++ (writeAll fields ++ rest) := by
      simp [writeAll]
    rw [List.length_cons, readAll, hcons, read_write]
    show field :: readAll fields.length (writeAll fields ++ rest) = _
    rw [ih]

def ofInt (n : Int) : List UInt8 :=
  (if n < 0 then 1 else 0) :: (Nat.digits 256 n.natAbs).map UInt8.ofNat

def toInt : List UInt8 → Int
  | [] => 0
  | sign :: digits =>
    let size : Int := (Nat.ofDigits 256 (digits.map UInt8.toNat) : Nat)
    if sign = 1 then -size else size

theorem toInt_ofInt (n : Int) : toInt (ofInt n) = n := by
  have hdigits : ((Nat.digits 256 n.natAbs).map UInt8.ofNat).map UInt8.toNat =
      Nat.digits 256 n.natAbs := by
    rw [List.map_map]
    refine (List.map_congr_left fun d hd => ?_).trans (List.map_id _)
    have hlt : d < 256 := Nat.digits_lt_base (by decide) hd
    show (UInt8.ofNat d).toNat = d
    rw [UInt8.toNat_ofNat']
    exact Nat.mod_eq_of_lt hlt
  show (let size : Int := _; if (if n < 0 then 1 else 0 : UInt8) = 1 then -size else size) = n
  rw [hdigits, Nat.ofDigits_digits]
  by_cases hneg : n < 0
  · rw [if_pos hneg, if_pos rfl]
    omega
  · rw [if_neg hneg, if_neg (by decide)]
    omega

end Fields
