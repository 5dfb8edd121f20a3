import AirMonitor.Co2Frames

/-!
Replies with one byte damaged on the line. The checksum covers bytes 1 to 8, the
command byte is compared as well, and the start byte is neither covered nor read:
damage there is the only one that gets through, and it touches no value.
-/

namespace AirMonitor.Co2
open Bytes

/-- One byte of a reply, and the different one that came in its place. -/
structure Damage (original : Reply) where
  index : Fin 9
  byte : UInt8
  different : byte ≠ byteAt original.1 index

/-- What one read of the trace finds. -/
inductive Arrival where
  | timeout
  | whole (original : Reply)
  | damaged (original : Reply) (damage : Damage original)

def Damage.bytes {original : Reply} (damage : Damage original) : List UInt8 :=
  original.1.set damage.index damage.byte

theorem reply_size (reply : Reply) : reply.1.length = 9 := reply.2.1

theorem damaged_size (original : Reply) (damage : Damage original) : damage.bytes.length = 9 := by
  rw [Damage.bytes, List.length_set, reply_size]

def nineByteChunk (bytes : List UInt8) (size : bytes.length = 9) : Chunk :=
  ⟨bytes, by rw [size]; decide, by rw [size]; decide⟩

def Arrival.read : Arrival → UartRead
  | .timeout => .timeout
  | .whole original => .chunk (nineByteChunk original.1 (reply_size original))
  | .damaged original damage => .chunk (nineByteChunk damage.bytes (damaged_size original damage))

/-- The reply as the sensor sent it. -/
def Arrival.original : Arrival → Option Reply
  | .timeout => none
  | .whole original => some original
  | .damaged original _ => some original

theorem byte_at_set (bytes : List UInt8) (index other : Nat) (byte : UInt8)
    (inside : index < bytes.length) :
    byteAt (bytes.set index byte) other = if index = other then byte else byteAt bytes other := by
  by_cases same : index = other
  · subst same
    simp [byteAt, inside]
  · simp [byteAt, same]

theorem byte_sum_set (bytes : List UInt8) (index : Nat) (byte : UInt8)
    (inside : index < bytes.length) :
    byteSum (bytes.set index byte) + (byteAt bytes index).toNat = byteSum bytes + byte.toNat := by
  induction bytes generalizing index with
  | nil => simp at inside
  | cons head tail ih =>
      cases index with
      | zero =>
          simp only [List.set_cons_zero, byteSum, List.map_cons, List.sum_cons, byteAt,
            List.getD_cons_zero]
          omega
      | succ index =>
          have rest := ih index (by simpa using inside)
          simp only [byteSum, byteAt] at rest
          simp only [List.set_cons_succ, byteSum, List.map_cons, List.sum_cons, byteAt,
            List.getD_cons_succ]
          omega

theorem covered_sum (bytes : List UInt8) (size : bytes.length = 9) :
    byteSum bytes = (byteAt bytes 0).toNat + byteSum (bytes.drop 1) := by
  have head := byte_sum_drop bytes 0 (by omega)
  rwa [List.drop_zero] at head

/-- One covered byte moves the sum by less than 256 and by more than nothing. -/
theorem covered_damage (original : Reply) (damage : Damage original)
    (covered : damage.index ≠ 0) : byteSum (damage.bytes.drop 1) % 256 ≠ 0 := by
  intro sound
  have inside : damage.index.val < original.1.length := by
    rw [reply_size]
    exact damage.index.isLt
  have apart : damage.index.val ≠ 0 := fun zero => covered (Fin.ext zero)
  have start : byteAt damage.bytes 0 = byteAt original.1 0 := by
    rw [Damage.bytes, byte_at_set _ _ _ _ inside, if_neg apart]
  have moved : byteSum damage.bytes + (byteAt original.1 damage.index).toNat =
      byteSum original.1 + damage.byte.toNat := byte_sum_set original.1 _ _ inside
  have before := covered_sum original.1 (reply_size original)
  have after := covered_sum damage.bytes (damaged_size original damage)
  have genuine := original.2.2.2.2
  have oldByte := (byteAt original.1 damage.index).toNat_lt
  have newByte := damage.byte.toNat_lt
  rw [start] at after
  have same : damage.byte.toNat = (byteAt original.1 damage.index).toNat := by omega
  exact damage.different (UInt8.toNat_inj.mp same)

theorem covered_damage_refused (original : Reply) (damage : Damage original)
    (covered : damage.index ≠ 0) : accepted (Arrival.damaged original damage).read = none := by
  have unsound : passes damage.bytes = false := by
    rw [← Bool.not_eq_true, passes_iff]
    rintro ⟨_, _, sound⟩
    exact covered_damage original damage covered sound
  simp [Arrival.read, accepted, nineByteChunk, unsound]

/-- Nothing the loop looks at lies in byte 0. -/
theorem start_damage_accepted (original : Reply) (damage : Damage original)
    (start : damage.index = 0) :
    accepted (Arrival.damaged original damage).read = some (ppm original.1) := by
  obtain ⟨b0, b1, b2, b3, b4, b5, b6, b7, b8, shape⟩ := nine_bytes original.1 (reply_size original)
  have damaged : damage.bytes = [damage.byte, b1, b2, b3, b4, b5, b6, b7, b8] := by
    rw [Damage.bytes, start, shape]
    rfl
  have sound := genuine_passes original
  have value : ppm damage.bytes = ppm original.1 := by rw [damaged, shape]; rfl
  have same : passes damage.bytes = passes original.1 := by rw [damaged, shape]; rfl
  simp [Arrival.read, accepted, nineByteChunk, same, sound, value]

/-- A read that is accepted gives the value of the reply as it was sent. -/
theorem arrival_accepted (arrival : Arrival) (value : Int)
    (taken : accepted arrival.read = some value) :
    ∃ original, arrival.original = some original ∧ value = ppm original.1 := by
  cases arrival with
  | timeout => simp [Arrival.read, accepted] at taken
  | whole original =>
      have sound := genuine_passes original
      refine ⟨original, rfl, ?_⟩
      simpa [Arrival.read, accepted, nineByteChunk, sound, eq_comm] using taken
  | damaged original damage =>
      refine ⟨original, rfl, ?_⟩
      by_cases start : damage.index = 0
      · rw [start_damage_accepted original damage start] at taken
        exact (Option.some.inj taken).symm
      · rw [covered_damage_refused original damage start] at taken
        simp at taken

/-- A refused read leaves the call where the rest of the trace takes it. -/
theorem read_skips (buffer : Buffer) (read : UartRead) (later : List UartRead)
    (refused : accepted read = none) :
    (co2ReadPass buffer read).value = none ∧
      co2Read buffer (read :: later) = co2Read (co2ReadPass buffer read).buffer later := by
  have nothing : (co2ReadPass buffer read).value = none := by rw [pass_value, refused]
  exact ⟨nothing, by rw [co2Read, nothing]⟩

theorem damage_never_returned (buffer : Buffer) (arrivals : List Arrival) :
    (∀ value rest, co2Read buffer (arrivals.map Arrival.read) = some (value, rest) →
      ∃ before arrival after original, arrivals = before ++ arrival :: after ∧
        rest = after.map Arrival.read ∧
        (∀ earlier ∈ before, ∀ found, (co2ReadPass found earlier.read).value = none) ∧
        (∀ found, (co2ReadPass found arrival.read).value = some value) ∧
        arrival.original = some original ∧ value = ppm original.1) ∧
    (∀ original damage, damage.index ≠ 0 → ∀ found later,
      (co2ReadPass found (Arrival.damaged original damage).read).value = none ∧
      co2Read found ((Arrival.damaged original damage).read :: later) =
        co2Read (co2ReadPass found (Arrival.damaged original damage).read).buffer later) := by
  constructor
  · intro value rest returned
    obtain ⟨skipped, read, split, refused, taken⟩ :=
      (read_some_iff buffer _ value rest).mp returned
    obtain ⟨before, others, rfl, rfl, found⟩ := List.map_eq_append_iff.mp split
    obtain ⟨arrival, after, rfl, rfl, rfl⟩ := List.map_eq_cons_iff.mp found
    obtain ⟨original, sent, same⟩ := arrival_accepted arrival value taken
    refine ⟨before, arrival, after, original, rfl, rfl, ?_, ?_, sent, same⟩
    · intro earlier member found
      rw [pass_value]
      exact refused earlier.read (List.mem_map_of_mem member)
    · intro found
      rw [pass_value, taken]
  · intro original damage covered found later
    exact read_skips found _ later (covered_damage_refused original damage covered)

def reply400 : Reply := ⟨[0xFF, 0x86, 0x01, 0x90, 0x00, 0x00, 0x00, 0x00, 0xE9], genuine_400⟩

def noisyTrace : List Arrival :=
  [.timeout, .damaged reply400 ⟨2, 0x04, by decide⟩, .damaged reply400 ⟨8, 0x79, by decide⟩,
    .damaged reply400 ⟨0, 0x00, by decide⟩, .whole reply400]

theorem damage_never_returned_noisy :
    ∃ before arrival after original, noisyTrace = before ++ arrival :: after ∧
      (noisyTrace.drop 4).map Arrival.read = after.map Arrival.read ∧
      (∀ earlier ∈ before, ∀ found, (co2ReadPass found earlier.read).value = none) ∧
      (∀ found, (co2ReadPass found arrival.read).value = some 400) ∧
      arrival.original = some original ∧ 400 = ppm original.1 :=
  (damage_never_returned blank noisyTrace).1 400 _ rfl

end AirMonitor.Co2
