import AirMonitor.Printf

/-!
Splitting a message at a mark that begins with a carriage return. Rows without
one are skipped whole, so the first mark is found row by row.
-/

namespace AirMonitor.Http
open Printf

def carriageReturn : UInt8 := 13

/-- The mark between the header and the body. -/
def blankLine : List UInt8 := ascii "\r\n\r\n"

/-- Both sides of the first place where `mark` occurs. -/
def splitFirst (mark : List UInt8) : List UInt8 → Option (List UInt8 × List UInt8)
  | [] => none
  | byte :: rest =>
      if mark.isPrefixOf (byte :: rest) then some ([], (byte :: rest).drop mark.length)
      else (splitFirst mark rest).map fun parts => (byte :: parts.1, parts.2)

/-- The value of a header field: its line is not the request line. -/
def field (name : List UInt8) (header : List UInt8) : Option (List UInt8) :=
  (splitFirst (ascii "\r\n" ++ name ++ ascii ": ") header).map fun parts =>
    parts.2.takeWhile (· != carriageReturn)

def number (digits : List UInt8) : Option Nat :=
  if digits ≠ [] ∧ digits.all isDigit then some (decimalValue digits) else none

def contentLength (header : List UInt8) : Option Nat :=
  (field (ascii "Content-Length") header).bind number

theorem split_skip (mark : List UInt8) (byte : UInt8) (rest : List UInt8)
    (miss : mark.isPrefixOf (byte :: rest) = false) :
    splitFirst mark (byte :: rest) =
      (splitFirst mark rest).map fun parts => (byte :: parts.1, parts.2) := by
  rw [splitFirst, if_neg (by simp [miss])]

theorem split_here (byte : UInt8) (more rest : List UInt8) :
    splitFirst (byte :: more) (byte :: more ++ rest) = some ([], rest) := by
  rw [List.cons_append, splitFirst, if_pos (by simp)]
  simp

/-- The mark begins with a byte that the row does not have. -/
theorem split_row (first : UInt8) (more row rest : List UInt8) (clear : first ∉ row) :
    splitFirst (first :: more) (row ++ rest) =
      (splitFirst (first :: more) rest).map fun parts => (row ++ parts.1, parts.2) := by
  induction row with
  | nil => simp
  | cons byte row ih =>
      have other : first ≠ byte := fun same => clear (by simp [same])
      have miss : (first :: more).isPrefixOf (byte :: (row ++ rest)) = false := by
        simp [List.isPrefixOf, other]
      rw [List.cons_append, split_skip _ _ _ miss, ih fun member => clear (by simp [member]),
        Option.map_map]
      rfl

theorem split_found (first : UInt8) (more row rest : List UInt8) (clear : first ∉ row) :
    splitFirst (first :: more) (row ++ (first :: more ++ rest)) = some (row, rest) := by
  rw [split_row first more row _ clear, split_here]
  simp

/-- A row followed by the first byte of the mark, but not by the mark. -/
theorem split_line (first : UInt8) (more row rest : List UInt8) (clear : first ∉ row)
    (miss : (first :: more).isPrefixOf (first :: rest) = false) :
    splitFirst (first :: more) (row ++ first :: rest) =
      (splitFirst (first :: more) rest).map fun parts => (row ++ first :: parts.1, parts.2) := by
  rw [split_row first more row _ clear, split_skip _ _ _ miss, Option.map_map]
  rfl

theorem number_decimal (value : Nat) : number (decimal value) = some value := by
  have digits : (decimal value).all isDigit = true := List.all_eq_true.mpr (decimal_digits value)
  rw [number, if_pos ⟨decimal_ne_nil value, digits⟩, decimal_value]

end AirMonitor.Http
