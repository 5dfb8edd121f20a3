import Mathlib.Algebra.GroupWithZero.Nat
import Mathlib.Data.List.Basic
import AirMonitor.Bytes

/-!
`co2.c`: one `uart_read_bytes` at a time into one buffer. The loops keep nothing
between reads but that buffer, and only its first nine bytes are ever looked at,
after a read that wrote exactly those nine.
-/

namespace AirMonitor.Co2
open Bytes

def rxBufSize : Nat := 1024

/-- What one `uart_read_bytes` delivers when it delivers anything. -/
abbrev Chunk := { bytes : List UInt8 // 0 < bytes.length ∧ bytes.length ≤ rxBufSize }

inductive UartRead where
  | error
  | timeout
  | chunk (bytes : Chunk)

/-- The `malloc(RX_BUF_SIZE + 1)` block. -/
abbrev Buffer := Fin (rxBufSize + 1) → UInt8

def UartRead.rxBytes : UartRead → Int
  | .error => -1
  | .timeout => 0
  | .chunk bytes => bytes.1.length

def fill (buffer : Buffer) (bytes : Chunk) : Buffer := fun i =>
  if i.val < bytes.1.length then byteAt bytes.1 i.val else buffer i

def terminate (buffer : Buffer) (bytes : Chunk) : Buffer := fun i =>
  if i.val = bytes.1.length then 0 else buffer i

def checkCRC (data : Buffer) : Bool :=
  let crc : UInt8 := data 1 + data 2 + data 3 + data 4 + data 5 + data 6 + data 7
  let crc : UInt8 := UInt8.ofNat (255 - crc.toNat + 1)
  crc == data 8

def readCO2 (data : Buffer) : Int :=
  let responseHigh : Int := (data 2).toNat
  let responseLow : Int := (data 3).toNat
  256 * responseHigh + responseLow

def cmd : List UInt8 := [0xFF, 0x01, 0x86, 0x00, 0x00, 0x00, 0x00, 0x00, 0x79]

/-- One pass of the receive loop: the buffer, what it writes to the UART, and the
value the loop ends with. -/
structure Pass where
  buffer : Buffer
  sendData : Option (List UInt8)
  value : Option Int

def co2ReadPass (buffer : Buffer) (read : UartRead) : Pass :=
  match read with
  | .chunk bytes =>
      let data := terminate (fill buffer bytes) bytes
      -- byte 0 is never looked at
      if read.rxBytes = 9 ∧ data 1 = 0x86 then
        -- "CRC error", then `continue`: nothing is asked again
        if !checkCRC data then ⟨data, none, none⟩
        else ⟨data, none, some (readCO2 data)⟩
      else ⟨data, none, none⟩
  | .error => ⟨buffer, some cmd, none⟩
  | .timeout => ⟨buffer, some cmd, none⟩

/-- The loop of `co2_read` over the reads to come: its value and the reads left
over, or `none` while the reads run out first. -/
def co2Read (buffer : Buffer) : List UartRead → Option (Int × List UartRead)
  | [] => none
  | read :: rest =>
      match (co2ReadPass buffer read).value with
      | some value => some (value, rest)
      | none => co2Read (co2ReadPass buffer read).buffer rest

/-- One pass of the loop of `co2_task`: the buffer, and the value it assigned to
`data->co2` if it did. -/
def co2TaskPass (buffer : Buffer) (read : UartRead) : Buffer × Option Int :=
  match read with
  | .chunk bytes =>
      let data := terminate (fill buffer bytes) bytes
      if read.rxBytes = 9 ∧ data 1 = 0x86 then
        if !checkCRC data then (data, none)
        else (data, some (readCO2 data))
      else (data, none)
  | .error => (buffer, none)
  | .timeout => (buffer, none)

/-- The values the loop assigns to `data->co2`, in order. -/
def co2Task (buffer : Buffer) : List UartRead → List Int
  | [] => []
  | read :: rest =>
      let pass := co2TaskPass buffer read
      pass.2.toList ++ co2Task pass.1 rest

/-! A pass looks at nothing but the bytes of its own read. -/

def byteSum (bytes : List UInt8) : Nat := (bytes.map UInt8.toNat).sum

/-- Nine bytes, the second `0x86`, the last eight summing to zero modulo 256. -/
def passes (bytes : List UInt8) : Bool :=
  bytes.length == 9 && byteAt bytes 1 == 0x86 && byteSum (bytes.drop 1) % 256 == 0

def ppm (bytes : List UInt8) : Int := 256 * ((byteAt bytes 2).toNat : Int) + (byteAt bytes 3).toNat

def accepted : UartRead → Option Int
  | .chunk bytes => if passes bytes.1 then some (ppm bytes.1) else none
  | _ => none

theorem filled (buffer : Buffer) (bytes : Chunk) (i : Fin (rxBufSize + 1))
    (inside : i.val < bytes.1.length) :
    terminate (fill buffer bytes) bytes i = byteAt bytes.1 i.val := by
  simp [terminate, fill, inside, Nat.ne_of_lt inside]

theorem nine_bytes (bytes : List UInt8) (size : bytes.length = 9) :
    ∃ b0 b1 b2 b3 b4 b5 b6 b7 b8, bytes = [b0, b1, b2, b3, b4, b5, b6, b7, b8] := by
  rcases bytes with _ | ⟨b0, _ | ⟨b1, _ | ⟨b2, _ | ⟨b3, _ | ⟨b4, _ | ⟨b5, _ | ⟨b6, _ | ⟨b7, _ |
    ⟨b8, _ | ⟨b9, rest⟩⟩⟩⟩⟩⟩⟩⟩⟩⟩ <;> simp at size
  exact ⟨b0, b1, b2, b3, b4, b5, b6, b7, b8, rfl⟩

/-- The complement of the sum of bytes 1 to 7 is byte 8 exactly when the eight
bytes sum to zero. -/
theorem check_crc_iff (data : Buffer) :
    checkCRC data = true ↔ ((data 1).toNat + (data 2).toNat + (data 3).toNat + (data 4).toNat +
      (data 5).toNat + (data 6).toNat + (data 7).toNat + (data 8).toNat) % 256 = 0 := by
  have last := (data 8).toNat_lt
  simp only [checkCRC, beq_iff_eq, ← UInt8.toNat_inj, UInt8.toNat_add, UInt8.toNat_ofNat']
  omega

theorem pass_value (buffer : Buffer) (read : UartRead) :
    (co2ReadPass buffer read).value = accepted read := by
  cases read with
  | error => rfl
  | timeout => rfl
  | chunk bytes =>
      by_cases size : bytes.1.length = 9
      · have at_index (i : Fin (rxBufSize + 1)) (small : i.val < 9) :
            terminate (fill buffer bytes) bytes i = byteAt bytes.1 i.val :=
          filled buffer bytes i (by omega)
        have rx : (UartRead.chunk bytes).rxBytes = 9 := by simp [UartRead.rxBytes, size]
        have crc : checkCRC (terminate (fill buffer bytes) bytes) =
            (byteSum (bytes.1.drop 1) % 256 == 0) := by
          obtain ⟨b0, b1, b2, b3, b4, b5, b6, b7, b8, shape⟩ := nine_bytes bytes.1 size
          rw [Bool.eq_iff_iff, beq_iff_eq, check_crc_iff, at_index 1 (by decide),
            at_index 2 (by decide), at_index 3 (by decide), at_index 4 (by decide), at_index 5 (by decide),
            at_index 6 (by decide), at_index 7 (by decide), at_index 8 (by decide), shape]
          simp only [byteSum, List.drop_succ_cons, List.drop_zero, List.map_cons, List.map_nil,
            List.sum_cons, List.sum_nil, Nat.add_zero, Nat.add_assoc]
          exact Iff.rfl
        have field : readCO2 (terminate (fill buffer bytes) bytes) = ppm bytes.1 := by
          rw [readCO2, at_index 2 (by decide), at_index 3 (by decide)]
          rfl
        have second : terminate (fill buffer bytes) bytes 1 = byteAt bytes.1 1 :=
          at_index 1 (by decide)
        simp only [co2ReadPass, accepted, passes, rx, size, second, field, crc]
        by_cases kind : byteAt bytes.1 1 = 0x86 <;>
          by_cases sound : byteSum (bytes.1.drop 1) % 256 = 0 <;>
          simp [kind, sound, -List.drop_one]
      · have rx : (UartRead.chunk bytes).rxBytes ≠ 9 := by
          simp only [UartRead.rxBytes]
          omega
        simp [co2ReadPass, accepted, passes, rx, size]

theorem read_none_iff (buffer : Buffer) (reads : List UartRead) :
    co2Read buffer reads = none ↔ ∀ read ∈ reads, accepted read = none := by
  induction reads generalizing buffer with
  | nil => simp [co2Read]
  | cons read rest ih =>
      rw [co2Read, pass_value]
      cases taken : accepted read with
      | none => simp [ih, taken]
      | some value => simp [taken]

/-- A call returns on the first read that is accepted. -/
theorem read_some_iff (buffer : Buffer) (reads : List UartRead) (value : Int)
    (rest : List UartRead) :
    co2Read buffer reads = some (value, rest) ↔
      ∃ before read, reads = before ++ read :: rest ∧
        (∀ other ∈ before, accepted other = none) ∧ accepted read = some value := by
  induction reads generalizing buffer with
  | nil => simp [co2Read]
  | cons head tail ih =>
      rw [co2Read, pass_value]
      cases taken : accepted head with
      | some found =>
          constructor
          · intro same
            obtain ⟨rfl, rfl⟩ : found = value ∧ tail = rest := by simpa using same
            exact ⟨[], head, rfl, by simp, taken⟩
          · rintro ⟨before, read, split, refused, accepts⟩
            cases before with
            | nil =>
                obtain ⟨rfl, rfl⟩ : head = read ∧ tail = rest := by simpa using split
                simpa [taken] using accepts
            | cons other before =>
                obtain ⟨rfl, _⟩ : head = other ∧ _ := by simpa using split
                simp [taken] at refused
      | none =>
          rw [ih]
          constructor
          · rintro ⟨before, read, rfl, refused, accepts⟩
            exact ⟨head :: before, read, rfl, by simpa [taken] using refused, accepts⟩
          · rintro ⟨before, read, split, refused, accepts⟩
            cases before with
            | nil =>
                obtain ⟨rfl, rfl⟩ : head = read ∧ tail = rest := by simpa using split
                simp [taken] at accepts
            | cons other before =>
                obtain ⟨rfl, rfl⟩ : head = other ∧ tail = before ++ read :: rest := by
                  simpa using split
                exact ⟨before, read, rfl, fun next member =>
                  refused next (List.mem_cons_of_mem _ member), accepts⟩

end AirMonitor.Co2
