import AirMonitor.Printf

/-!
A reader for the JSON objects a small device posts: keys without escapes, values
that are numbers without exponent. What it accepts every JSON reader accepts with
the same meaning. Texts put together from keys and numerals read back.
-/

namespace AirMonitor.Json
open Printf

def quote : UInt8 := 34
def comma : UInt8 := 44
def point : UInt8 := 46
def colon : UInt8 := 58
def openBrace : UInt8 := 123
def closeBrace : UInt8 := 125

def isSpace (byte : UInt8) : Bool := byte == 32 || byte == 9 || byte == 10 || byte == 13

def skipSpace (bytes : List UInt8) : List UInt8 := bytes.dropWhile isSpace

/-- Anything but a quote, a backslash or a control character. -/
def plain (byte : UInt8) : Bool := byte != quote && byte != 92 && 32 ≤ byte.toNat

def readString (bytes : List UInt8) : Option (List UInt8 × List UInt8) :=
  if bytes.head? = some quote then
    let rest := bytes.tail.dropWhile plain
    if rest.head? = some quote then some (bytes.tail.takeWhile plain, rest.tail) else none
  else none

/-- Digits without a zero in front of others, and a fraction if a point follows. -/
def readUnsigned (bytes : List UInt8) : Option (ℚ × List UInt8) :=
  let whole := bytes.takeWhile isDigit
  let rest := bytes.dropWhile isDigit
  -- `007` is no number
  if whole = [] ∨ (1 < whole.length ∧ whole.head? = some 48) then none
  else if rest.head? = some point then
    let fraction := rest.tail.takeWhile isDigit
    if fraction = [] then none
    else some (decimalValue whole + decimalValue fraction / 10 ^ fraction.length,
      rest.tail.dropWhile isDigit)
  else some (decimalValue whole, rest)

def readNumber (bytes : List UInt8) : Option (ℚ × List UInt8) :=
  if bytes.head? = some minus then
    (readUnsigned bytes.tail).map fun read => (-read.1, read.2)
  else readUnsigned bytes

abbrev Member := List UInt8 × ℚ

def readMember (bytes : List UInt8) : Option (Member × List UInt8) := do
  let (key, rest) ← readString (skipSpace bytes)
  let rest := skipSpace rest
  if rest.head? = some colon then
    let (value, rest) ← readNumber (skipSpace rest.tail)
    some ((key, value), skipSpace rest)
  else none

/-- Members up to the closing brace; the fuel bounds their number. -/
def readMembers : Nat → List UInt8 → Option (List Member × List UInt8)
  | 0, _ => none
  | fuel + 1, bytes => do
      let (member, rest) ← readMember bytes
      if rest.head? = some comma then
        let (members, rest) ← readMembers fuel rest.tail
        some (member :: members, rest)
      else if rest.head? = some closeBrace then some ([member], rest.tail)
      else none

def parseObject (bytes : List UInt8) : Option (List Member) := do
  let rest := skipSpace bytes
  if rest.head? = some openBrace then
    let (members, rest) ←
      if (skipSpace rest.tail).head? = some closeBrace then some ([], (skipSpace rest.tail).tail)
      else readMembers bytes.length rest.tail
    -- nothing but white space may follow the object
    if skipSpace rest = [] then some members else none
  else none

/-! Texts that read back -/

/-- A text that is read as this number in front of anything that cannot go on a
number. -/
structure Numeral where
  text : List UInt8
  value : ℚ
  starts : ∀ rest, skipSpace (text ++ rest) = text ++ rest
  reads : ∀ next rest, isDigit next = false → next ≠ point →
    readNumber (text ++ next :: rest) = some (value, next :: rest)

abbrev Key := { bytes : List UInt8 // bytes.all plain = true }

def encodeMember (member : Key × Numeral) : List UInt8 :=
  quote :: member.1.1 ++ quote :: colon :: member.2.text

def encodeMembers : List (Key × Numeral) → List UInt8
  | [] => []
  | [member] => encodeMember member
  | member :: more => encodeMember member ++ comma :: encodeMembers more

def meaning (members : List (Key × Numeral)) : List Member :=
  members.map fun member => (member.1.1, member.2.value)

theorem skip_none (byte : UInt8) (rest : List UInt8) (dark : isSpace byte = false) :
    skipSpace (byte :: rest) = byte :: rest := by
  simp [skipSpace, dark]

theorem read_string (key : Key) (rest : List UInt8) :
    readString (quote :: (key.1 ++ quote :: rest)) = some (key.1, rest) := by
  have stop : plain quote = false := by decide
  have all := List.all_eq_true.mp key.2
  simp [readString, List.takeWhile_append_of_pos all, List.dropWhile_append_of_pos all, stop]

theorem read_member (member : Key × Numeral) (next : UInt8) (rest : List UInt8)
    (ends : isDigit next = false) (whole : next ≠ point) (dark : isSpace next = false) :
    readMember (encodeMember member ++ next :: rest) =
      some ((member.1.1, member.2.value), next :: rest) := by
  have shape : encodeMember member ++ next :: rest =
      quote :: (member.1.1 ++ quote :: colon :: (member.2.text ++ next :: rest)) := by
    simp [encodeMember]
  have opening := skip_none quote
    (member.1.1 ++ quote :: colon :: (member.2.text ++ next :: rest)) (by decide)
  have middle := skip_none colon (member.2.text ++ next :: rest) (by decide)
  rw [shape, readMember, opening, read_string]
  simp [middle, member.2.starts, member.2.reads next rest ends whole, skip_none next rest dark]

theorem read_members (member : Key × Numeral) (more : List (Key × Numeral)) (rest : List UInt8)
    (fuel : Nat) (enough : more.length < fuel) :
    readMembers fuel (encodeMembers (member :: more) ++ closeBrace :: rest) =
      some (meaning (member :: more), rest) := by
  induction more generalizing member fuel with
  | nil =>
      obtain ⟨fuel, rfl⟩ : ∃ less, fuel = less + 1 := ⟨fuel - 1, by simp at enough; omega⟩
      have last := read_member member closeBrace rest (by decide) (by decide) (by decide)
      rw [encodeMembers, readMembers, last]
      simp [meaning, closeBrace, comma]
  | cons second more ih =>
      obtain ⟨fuel, rfl⟩ : ∃ less, fuel = less + 1 := ⟨fuel - 1, by simp at enough; omega⟩
      have shape : encodeMembers (member :: second :: more) ++ closeBrace :: rest =
          encodeMember member ++ comma :: (encodeMembers (second :: more) ++ closeBrace :: rest) := by
        simp [encodeMembers]
      have first := read_member member comma
        (encodeMembers (second :: more) ++ closeBrace :: rest) (by decide) (by decide) (by decide)
      rw [shape, readMembers, first]
      simp [ih second fuel (by simpa using enough), meaning]

theorem encode_long (member : Key × Numeral) (more : List (Key × Numeral)) :
    more.length < (encodeMembers (member :: more)).length := by
  induction more generalizing member with
  | nil => simp [encodeMembers, encodeMember]
  | cons second more ih =>
      have tail := ih second
      simp only [encodeMembers, encodeMember, List.length_append, List.length_cons] at tail ⊢
      omega

/-- An object of at least one member, with any white space after it, reads back. -/
theorem parse_encode (member : Key × Numeral) (more : List (Key × Numeral)) (trail : List UInt8)
    (blank : skipSpace trail = []) :
    parseObject (openBrace :: encodeMembers (member :: more) ++ closeBrace :: trail) =
      some (meaning (member :: more)) := by
  have opening := skip_none openBrace (encodeMembers (member :: more) ++ closeBrace :: trail)
    (by decide)
  have long := encode_long member more
  have fuel : more.length <
      (openBrace :: (encodeMembers (member :: more) ++ closeBrace :: trail)).length := by
    simp only [List.length_cons, List.length_append]
    omega
  have members := read_members member more trail _ fuel
  have quoted : (skipSpace (encodeMembers (member :: more) ++ closeBrace :: trail)).head? =
      some quote := by
    cases more <;> simp [encodeMembers, encodeMember, skipSpace, isSpace, quote]
  rw [List.cons_append, parseObject, opening]
  simp only [List.head?_cons, List.tail_cons, quoted, members]
  simp [blank, quote, closeBrace]

/-! The two numerals `printf` writes -/

theorem digit_row (digits : List UInt8) (all : ∀ byte ∈ digits, isDigit byte = true)
    (next : UInt8) (rest : List UInt8) (ends : isDigit next = false) :
    (digits ++ next :: rest).takeWhile isDigit = digits ∧
      (digits ++ next :: rest).dropWhile isDigit = next :: rest := by
  simp [List.takeWhile_append_of_pos all, List.dropWhile_append_of_pos all, ends]

theorem decimal_first (value : Nat) :
    ∃ first more, decimal value = first :: more ∧ isSpace first = false ∧ first ≠ minus := by
  cases digits : decimal value with
  | nil => exact absurd digits (decimal_ne_nil value)
  | cons first more =>
      have numeric := decimal_digits value first (by simp [digits])
      refine ⟨first, more, rfl, ?_, ?_⟩
      · by_contra dark
        simp only [isSpace, Bool.not_eq_false, Bool.or_eq_true, beq_iff_eq] at dark
        rcases dark with ((rfl | rfl) | rfl) | rfl <;> simp [isDigit] at numeric
      · rintro rfl
        simp [isDigit, minus] at numeric

/-- `decimal` never puts a zero in front of other digits. -/
theorem decimal_well_formed (value : Nat) : ¬ (decimal value = [] ∨
    (1 < (decimal value).length ∧ (decimal value).head? = some 48)) := by
  rintro (none | ⟨long, zero⟩)
  · exact decimal_ne_nil value none
  · exact decimal_head value long zero

theorem read_whole (value : Nat) (next : UInt8) (rest : List UInt8)
    (ends : isDigit next = false) (whole : next ≠ point) :
    readUnsigned (decimal value ++ next :: rest) = some ((value : ℚ), next :: rest) := by
  obtain ⟨taken, dropped⟩ := digit_row _ (decimal_digits value) next rest ends
  rw [readUnsigned]
  simp only [taken, dropped, if_neg (decimal_well_formed value), decimal_value]
  simp [whole]

theorem read_fixed (whole fraction : Nat) (small : fraction < 1000000) (next : UInt8)
    (rest : List UInt8) (ends : isDigit next = false) :
    readUnsigned (decimal whole ++ point :: (padded 6 fraction ++ next :: rest)) =
      some ((whole : ℚ) + fraction / 1000000, next :: rest) := by
  obtain ⟨taken, dropped⟩ := digit_row _ (decimal_digits whole) point
    (padded 6 fraction ++ next :: rest) (by decide)
  obtain ⟨takenSix, droppedSix⟩ := digit_row _ (padded_digits 6 fraction) next rest ends
  have six : padded 6 fraction ≠ [] := by
    rw [← List.length_pos_iff, padded_length]
    decide
  have value : decimalValue (padded 6 fraction) = fraction := by
    rw [padded_value]
    exact Nat.mod_eq_of_lt small
  rw [readUnsigned]
  simp only [taken, dropped, if_neg (decimal_well_formed whole), decimal_value, List.head?_cons,
    List.tail_cons, if_true, takenSix, droppedSix, if_neg six, value, padded_length]
  norm_num

theorem read_signed (negative : Prop) [Decidable negative] (bytes : List UInt8)
    (unsigned : bytes.head? ≠ some minus) :
    readNumber ((if negative then [minus] else []) ++ bytes) =
      (readUnsigned bytes).map fun read => ((if negative then -1 else 1) * read.1, read.2) := by
  by_cases below : negative
  · simp [readNumber, below]
  · simp [readNumber, below, unsigned]

theorem signed_starts (negative : Prop) [Decidable negative] (value : Nat) (rest : List UInt8) :
    skipSpace ((if negative then [minus] else []) ++ (decimal value ++ rest)) =
      (if negative then [minus] else []) ++ (decimal value ++ rest) := by
  obtain ⟨first, more, digits, dark, _⟩ := decimal_first value
  by_cases below : negative
  · simp only [if_pos below]
    exact skip_none minus _ (by decide)
  · simp only [if_neg below, digits]
    exact skip_none first _ dark

theorem unsigned_head (value : Nat) (rest : List UInt8) :
    (decimal value ++ rest).head? ≠ some minus := by
  obtain ⟨first, more, digits, _, other⟩ := decimal_first value
  simpa [digits] using other

theorem signed_natAbs (value : Int) :
    (if value < 0 then -1 else 1) * (value.natAbs : ℚ) = value := by
  have magnitude : ((value.natAbs : Int) : ℚ) = ((|value| : Int) : ℚ) := by
    rw [Int.natCast_natAbs]
  rw [Int.cast_natCast] at magnitude
  rw [magnitude]
  by_cases below : value < 0
  · rw [if_pos below, abs_of_neg below]
    push_cast
    ring
  · rw [if_neg below, abs_of_nonneg (not_lt.mp below), one_mul]

theorem split_millionths (value : Nat) :
    ((value / 1000000 : Nat) : ℚ) + (value % 1000000 : Nat) / 1000000 = value / 1000000 := by
  have whole : ((1000000 * (value / 1000000) + value % 1000000 : Nat) : ℚ) = value := by
    rw [Nat.div_add_mod]
  push_cast at whole ⊢
  linarith

def integer (value : Int) : Numeral where
  text := formatD value
  value := value
  starts rest := by
    rw [formatD, List.append_assoc]
    exact signed_starts (value < 0) value.natAbs rest
  reads next rest ends whole := by
    rw [formatD, List.append_assoc, read_signed _ _ (unsigned_head _ _),
      read_whole value.natAbs next rest ends whole, Option.map_some, signed_natAbs]

def fixed (value : ℚ) : Numeral where
  text := formatF value
  value := printedF value
  starts rest := by
    rw [formatF, List.append_assoc, List.append_assoc]
    exact signed_starts (value < 0) _ _
  reads next rest ends whole := by
    have small := Nat.mod_lt (millionths value) (show 0 < 1000000 by decide)
    have shape : formatF value ++ next :: rest = (if value < 0 then [minus] else []) ++
        (decimal (millionths value / 1000000) ++
          point :: (padded 6 (millionths value % 1000000) ++ next :: rest)) := by
      simp [formatF, point]
    rw [shape, read_signed _ _ (unsigned_head _ _), read_fixed _ _ small next rest ends,
      Option.map_some, split_millionths, printedF]

end AirMonitor.Json
