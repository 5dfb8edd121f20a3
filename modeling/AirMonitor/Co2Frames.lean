import Mathlib.Tactic.IntervalCases
import AirMonitor.Blocks
import AirMonitor.Co2

/-!
The receive loop on a stream of genuine replies cut anywhere. Only a chunk of
exactly nine bytes can be accepted; it is then either a whole reply or a window
across two replies that happens to pass both tests of the loop.
-/

namespace AirMonitor.Co2
open Bytes Blocks

def Genuine (bytes : List UInt8) : Prop :=
  bytes.length = 9 ∧ byteAt bytes 0 = 0xFF ∧ byteAt bytes 1 = 0x86 ∧
    byteSum (bytes.drop 1) % 256 = 0

instance (bytes : List UInt8) : Decidable (Genuine bytes) :=
  inferInstanceAs (Decidable (_ ∧ _ ∧ _ ∧ _))

abbrev Reply := { bytes : List UInt8 // Genuine bytes }

def stream (replies : List Reply) : List UInt8 := (replies.map Subtype.val).flatten

def UartRead.received : UartRead → List UInt8
  | .chunk bytes => bytes.1
  | _ => []

def received (reads : List UartRead) : List UInt8 := reads.flatMap UartRead.received

/-- Where the second byte of the window lies in `left`, and what the checksum of
the window says once both replies have a good one. -/
def Straddles (left right : List UInt8) (shift : Nat) : Prop :=
  2 ≤ shift ∧ shift ≤ 7 ∧ byteAt left (shift + 1) = 0x86 ∧
    byteSum ((right.drop 2).take (shift - 2)) % 256 =
      (byteSum ((left.drop 2).take (shift - 1)) + 1) % 256

/-- The window at `offset` lies across two replies and passes for one. -/
def Ghost (replies : List Reply) (offset : Nat) : Prop :=
  ∃ left right : Reply, replies[offset / 9]? = some left ∧
    replies[offset / 9 + 1]? = some right ∧ Straddles left.1 right.1 (offset % 9)

theorem passes_iff (bytes : List UInt8) :
    passes bytes = true ↔
      bytes.length = 9 ∧ byteAt bytes 1 = 0x86 ∧ byteSum (bytes.drop 1) % 256 = 0 := by
  simp [passes, and_assoc]

theorem genuine_passes (reply : Reply) : passes reply.1 = true :=
  (passes_iff reply.1).mpr ⟨reply.2.1, reply.2.2.2⟩

theorem byte_sum_append (front back : List UInt8) :
    byteSum (front ++ back) = byteSum front + byteSum back := by
  simp [byteSum]

theorem byte_sum_drop (bytes : List UInt8) (index : Nat) (inside : index < bytes.length) :
    byteSum (bytes.drop index) = (byteAt bytes index).toNat + byteSum (bytes.drop (index + 1)) := by
  have found : byteAt bytes index = bytes[index] := by simp [byteAt, inside]
  rw [List.drop_eq_getElem_cons inside, byteSum, List.map_cons, List.sum_cons, found, byteSum]

/-- The bytes a window leaves of a reply sum to what the checksum still needs. -/
theorem genuine_tail (reply : List UInt8) (genuine : Genuine reply) (shift : Nat) :
    (0x86 + byteSum ((reply.drop 2).take shift) + byteSum (reply.drop (shift + 2))) % 256 = 0 := by
  obtain ⟨size, _, kind, sum⟩ := genuine
  rw [byte_sum_drop reply 1 (by omega), kind, ← List.take_append_drop shift (reply.drop 2),
    byte_sum_append, List.drop_drop, ← Nat.add_assoc] at sum
  rwa [Nat.add_comm shift 2]

theorem genuine_head (reply : List UInt8) (genuine : Genuine reply) (shift : Nat) :
    byteSum (reply.take (shift + 2)) = 0xFF + 0x86 + byteSum ((reply.drop 2).take shift) := by
  obtain ⟨size, start, kind, _⟩ := genuine
  have head := byte_sum_drop (reply.take (shift + 2)) 0 (by simp; omega)
  have second := byte_sum_drop (reply.take (shift + 2)) 1 (by simp; omega)
  have cut : (reply.take (shift + 2)).drop 2 = (reply.drop 2).take shift := by
    rw [List.drop_take, Nat.add_sub_cancel]
  rw [List.drop_zero] at head
  rw [head, second, cut, ← Nat.add_assoc]
  simp_all [byteAt]

theorem straddles_iff (left right : List UInt8) (kept : Nat) :
    Straddles left right (kept + 2) ↔ kept ≤ 5 ∧ byteAt left (kept + 3) = 0x86 ∧
      byteSum ((right.drop 2).take kept) % 256 =
        (byteSum ((left.drop 2).take (kept + 1)) + 1) % 256 := by
  simp [Straddles]

theorem window_second (left right : List UInt8) (size : left.length = 9) (shift : Nat)
    (within : shift < 8) :
    byteAt (left.drop shift ++ right.take shift) 1 = byteAt left (shift + 1) := by
  have inside : 1 < (left.drop shift).length := by
    rw [List.length_drop]
    omega
  simp [byteAt, List.getElem?_append_left inside, List.getElem?_drop]

theorem window_tail (left right : List UInt8) (size : left.length = 9) (shift : Nat)
    (within : shift < 9) :
    byteSum ((left.drop shift ++ right.take shift).drop 1) =
      byteSum (left.drop (shift + 1)) + byteSum (right.take shift) := by
  rw [List.drop_append_of_le_length (by simp [size]; omega), List.drop_drop, byte_sum_append]

/-- The checksums of both replies turn the checksum of a window into a relation
between the bytes it cuts off and the bytes it takes in. -/
theorem straddle_iff (left right : List UInt8) (first : Genuine left) (second : Genuine right)
    (shift : Nat) (apart : 0 < shift) (within : shift < 9) :
    passes (left.drop shift ++ right.take shift) = true ↔ Straddles left right shift := by
  have size : (left.drop shift ++ right.take shift).length = 9 := by
    simp [first.1, second.1]
    omega
  rw [passes_iff, window_tail left right first.1 shift within]
  by_cases lone : shift = 1
  · -- one byte of the next reply: the sum misses zero by its 0xFF
    subst lone
    have rest := genuine_tail left first 0
    have start : byteSum (right.take 1) = 0xFF := by
      obtain ⟨size, start, _⟩ := second
      cases right with
      | nil => simp at size
      | cons byte others => simpa [byteAt, byteSum] using congrArg UInt8.toNat start
    have cut : byteSum ((left.drop 2).take 0) = 0 := rfl
    constructor
    · rintro ⟨_, _, sum⟩
      simp only [Nat.zero_add, Nat.reduceAdd] at rest sum
      omega
    · intro straddles
      exact absurd straddles.1 (by omega)
  · obtain ⟨kept, rfl⟩ : ∃ kept, shift = kept + 2 := ⟨shift - 2, by omega⟩
    have rest : (0x86 + byteSum ((left.drop 2).take (kept + 1)) +
        byteSum (left.drop (kept + 2 + 1))) % 256 = 0 := genuine_tail left first (kept + 1)
    rw [genuine_head right second kept, straddles_iff]
    by_cases last : kept = 6
    · -- eight bytes of the next reply: the second byte of the window is its 0xFF
      subst last
      have start : byteAt (left.drop 8 ++ right.take 8) 1 = 0xFF := by
        simpa [byteAt, first.1, second.1] using second.2.1
      constructor
      · rintro ⟨_, kind, _⟩
        exact absurd (start.symm.trans kind) (by decide)
      · rintro ⟨small, _⟩
        exact absurd small (by decide)
    · rw [window_second left right first.1 (kept + 2) (by omega)]
      constructor
      · rintro ⟨_, kind, sum⟩
        exact ⟨by omega, kind, by omega⟩
      · rintro ⟨_, kind, sum⟩
        exact ⟨size, kind, by omega⟩

theorem received_append (front back : List UartRead) :
    received (front ++ back) = received front ++ received back := by
  simp [received]

theorem chunk_window (bytes : List UInt8) (before : List UartRead) (chunk : Chunk)
    (after : List UartRead) (whole : received (before ++ .chunk chunk :: after) = bytes) :
    chunk.1 = window bytes (received before).length chunk.1.length := by
  have split : bytes = received before ++ (chunk.1 ++ received after) := by
    rw [← whole, received_append]
    rfl
  rw [split, window, List.drop_left, List.take_left]

theorem uniform_replies (replies : List Reply) : Uniform 9 (replies.map Subtype.val) := by
  intro block member
  obtain ⟨reply, _, rfl⟩ := List.mem_map.mp member
  exact reply.2.1

theorem stream_length (replies : List Reply) : (stream replies).length = 9 * replies.length := by
  rw [stream, flatten_length 9 _ (uniform_replies replies), List.length_map]

theorem reply_bytes (replies : List Reply) (index : Nat) (bytes : List UInt8)
    (found : (replies.map Subtype.val)[index]? = some bytes) :
    ∃ reply : Reply, replies[index]? = some reply ∧ reply.1 = bytes := by
  rwa [List.getElem?_map, Option.map_eq_some_iff] at found

theorem window_reply (replies : List Reply) (offset : Nat) (aligned : offset % 9 = 0)
    (whole : (window (stream replies) offset 9).length = 9) :
    ∃ reply : Reply, replies[offset / 9]? = some reply ∧
      reply.1 = window (stream replies) offset 9 := by
  obtain ⟨⟨bytes, found⟩, _⟩ :=
    window_blocks 9 offset (by decide) _ (uniform_replies replies) whole
  obtain ⟨reply, index, rfl⟩ := reply_bytes replies _ _ found
  have place := Nat.div_add_mod offset 9
  have same := window_aligned 9 _ _ (uniform_replies replies) reply.1 found
  rw [aligned, Nat.add_zero] at place
  rw [place] at same
  exact ⟨reply, index, same.symm⟩

/-- Nine bytes of the stream pass when they are one reply or a ghost. -/
theorem window_passes_iff (replies : List Reply) (offset : Nat)
    (whole : (window (stream replies) offset 9).length = 9) :
    passes (window (stream replies) offset 9) = true ↔
      offset % 9 = 0 ∨ Ghost replies offset := by
  by_cases aligned : offset % 9 = 0
  · obtain ⟨reply, _, same⟩ := window_reply replies offset aligned whole
    rw [← same]
    exact ⟨fun _ => .inl aligned, fun _ => genuine_passes reply⟩
  · obtain ⟨⟨left, first⟩, next⟩ :=
      window_blocks 9 offset (by decide) _ (uniform_replies replies) whole
    obtain ⟨right, second⟩ := next aligned
    obtain ⟨one, foundOne, rfl⟩ := reply_bytes replies _ _ first
    obtain ⟨two, foundTwo, rfl⟩ := reply_bytes replies _ _ second
    have part := Nat.mod_lt offset (show 0 < 9 by decide)
    have across := window_across 9 (offset / 9) (offset % 9) _ (uniform_replies replies)
      (by omega) one.1 two.1 first second
    rw [Nat.div_add_mod] at across
    rw [stream, across, straddle_iff one.1 two.1 one.2 two.2 (offset % 9) (by omega) part]
    constructor
    · intro straddles
      exact .inr ⟨one, two, foundOne, foundTwo, straddles⟩
    · rintro (zero | ⟨left, right, foundLeft, foundRight, straddles⟩)
      · exact absurd zero aligned
      · obtain rfl : one = left := Option.some.inj (foundOne.symm.trans foundLeft)
        obtain rfl : two = right := Option.some.inj (foundTwo.symm.trans foundRight)
        exact straddles

theorem accepted_some_iff (read : UartRead) (value : Int) :
    accepted read = some value ↔
      ∃ chunk : Chunk, read = .chunk chunk ∧ passes chunk.1 = true ∧ ppm chunk.1 = value := by
  cases read <;> simp [accepted]

section Trace
variable (replies : List Reply) (before : List UartRead) (chunk : Chunk) (after : List UartRead)
  (whole : received (before ++ .chunk chunk :: after) = stream replies)
include whole

theorem chunk_passes_iff :
    passes chunk.1 = true ↔ chunk.1.length = 9 ∧
      ((received before).length % 9 = 0 ∨ Ghost replies (received before).length) := by
  have cut := chunk_window (stream replies) before chunk after whole
  by_cases size : chunk.1.length = 9
  · rw [size] at cut
    rw [cut, window_passes_iff replies _ (by rw [← cut, size]), ← cut]
    simp [size]
  · simp [passes, size]

theorem chunk_reply (size : chunk.1.length = 9) (aligned : (received before).length % 9 = 0) :
    ∃ reply : Reply, replies[(received before).length / 9]? = some reply ∧ reply.1 = chunk.1 := by
  have cut := chunk_window (stream replies) before chunk after whole
  rw [size] at cut
  rw [cut]
  exact window_reply replies _ aligned (by rw [← cut, size])

end Trace

/-- What calls over this trace return, wherever they start in it, is a value of a
reply, and nothing but a reply is accepted. -/
structure Sound (replies : List Reply) (trace : List UartRead) : Prop where
  values : ∀ before after buffer value rest, trace = before ++ after →
    co2Read buffer after = some (value, rest) → ∃ reply ∈ replies, value = ppm reply.1
  frames : ∀ before chunk after buffer value, trace = before ++ .chunk chunk :: after →
    (co2ReadPass buffer (.chunk chunk)).value = some value →
    (received before).length % 9 = 0 ∧
      ∃ reply, replies[(received before).length / 9]? = some reply ∧ reply.1 = chunk.1

theorem sound_clear_iff (replies : List Reply) (trace : List UartRead)
    (whole : received trace = stream replies) :
    Sound replies trace ↔ ∀ before chunk after, trace = before ++ .chunk chunk :: after →
      chunk.1.length = 9 → ¬ Ghost replies (received before).length := by
  constructor
  · rintro sound before chunk after rfl size ghost
    -- a ghost is accepted whatever the buffer held, and it is not aligned
    have passed := (chunk_passes_iff replies before chunk after whole).mpr ⟨size, .inr ghost⟩
    have taken : (co2ReadPass (fun _ => 0) (.chunk chunk)).value = some (ppm chunk.1) := by
      rw [pass_value, accepted_some_iff]
      exact ⟨chunk, rfl, passed, rfl⟩
    obtain ⟨aligned, _⟩ := sound.frames before chunk after _ _ rfl taken
    obtain ⟨_, _, _, _, apart, _⟩ := ghost
    omega
  · intro clear
    have frames (before : List UartRead) (chunk : Chunk) (after : List UartRead)
        (split : trace = before ++ .chunk chunk :: after)
        (passed : passes chunk.1 = true) : (received before).length % 9 = 0 ∧
          ∃ reply, replies[(received before).length / 9]? = some reply ∧ reply.1 = chunk.1 := by
      rw [split] at whole
      obtain ⟨size, aligned | ghost⟩ :=
        (chunk_passes_iff replies before chunk after whole).mp passed
      · exact ⟨aligned, chunk_reply replies before chunk after whole size aligned⟩
      · exact absurd ghost (clear before chunk after split size)
    refine ⟨fun before after buffer value rest split returned => ?_,
      fun before chunk after buffer value split taken => ?_⟩
    · obtain ⟨skipped, read, found, _, taken⟩ :=
        (read_some_iff buffer after value rest).mp returned
      obtain ⟨chunk, rfl, passed, same⟩ := (accepted_some_iff read value).mp taken
      obtain ⟨_, reply, index, bytes⟩ := frames (before ++ skipped) chunk rest
        (by rw [split, found, List.append_assoc]) passed
      exact ⟨reply, List.mem_of_getElem? index, by rw [bytes, same]⟩
    · rw [pass_value] at taken
      obtain ⟨other, same, passed, _⟩ := (accepted_some_iff _ value).mp taken
      obtain rfl : chunk = other := UartRead.chunk.inj same
      exact frames before chunk after split passed

/-- What the loop makes of nine bytes that are no whole reply. -/
structure Window (replies : List Reply) (before : List UartRead) (chunk : Chunk)
    (after : List UartRead) (buffer : Buffer) : Prop where
  taken : Ghost replies (received before).length →
    co2Read buffer (.chunk chunk :: after) = some (ppm chunk.1, after)
  refused : (received before).length % 9 = 1 ∨ (received before).length % 9 = 8 →
    (co2ReadPass buffer (.chunk chunk)).value = none

theorem nine_window (replies : List Reply) (before : List UartRead) (chunk : Chunk)
    (after : List UartRead) (whole : received (before ++ .chunk chunk :: after) = stream replies)
    (size : chunk.1.length = 9) (buffer : Buffer) : Window replies before chunk after buffer := by
  have test := chunk_passes_iff replies before chunk after whole
  constructor
  · intro ghost
    have taken : accepted (.chunk chunk) = some (ppm chunk.1) :=
      (accepted_some_iff _ _).mpr ⟨chunk, rfl, test.mpr ⟨size, .inr ghost⟩, rfl⟩
    exact (read_some_iff buffer _ _ _).mpr ⟨[], _, rfl, by simp, taken⟩
  · intro edge
    have missed : passes chunk.1 = false := by
      rw [Bool.eq_false_iff]
      intro passed
      obtain ⟨_, aligned | ghost⟩ := test.mp passed
      · omega
      · obtain ⟨_, _, _, _, apart, within, _⟩ := ghost
        omega
    rw [pass_value, accepted, missed]
    rfl

theorem sound_iff (replies : List Reply) (trace : List UartRead)
    (whole : received trace = stream replies) :
    (Sound replies trace ↔ ∀ before chunk after, trace = before ++ .chunk chunk :: after →
      chunk.1.length = 9 → ¬ Ghost replies (received before).length) ∧
    ∀ before chunk after buffer, trace = before ++ .chunk chunk :: after →
      chunk.1.length = 9 → Window replies before chunk after buffer := by
  constructor
  · exact sound_clear_iff replies trace whole
  · intro before chunk after buffer split size
    rw [split] at whole
    exact nine_window replies before chunk after whole size buffer

def blank : Buffer := fun _ => 0

theorem genuine_400 :
    Genuine [0xFF, 0x86, 0x01, 0x90, 0x00, 0x00, 0x00, 0x00, 0xE9] := by decide

def ghostReplies : List Reply :=
  [⟨[0xFF, 0x86, 0xFF, 0x86, 0x00, 0x00, 0x00, 0x00, 0xF5], by decide⟩,
    ⟨[0xFF, 0x86, 0x01, 0x90, 0x00, 0x00, 0x00, 0x00, 0xE9], by decide⟩]

def ghostTrace : List UartRead :=
  [.chunk ⟨[0xFF, 0x86], by decide⟩,
    .chunk ⟨[0xFF, 0x86, 0x00, 0x00, 0x00, 0x00, 0xF5, 0xFF, 0x86], by decide⟩,
    .chunk ⟨[0x01, 0x90, 0x00, 0x00, 0x00, 0x00, 0xE9], by decide⟩]

theorem sound_iff_ghost :
    (Sound ghostReplies ghostTrace ↔
      ∀ before chunk after, ghostTrace = before ++ .chunk chunk :: after →
        chunk.1.length = 9 → ¬ Ghost ghostReplies (received before).length) ∧
    ∀ before chunk after buffer, ghostTrace = before ++ .chunk chunk :: after →
      chunk.1.length = 9 → Window ghostReplies before chunk after buffer :=
  sound_iff ghostReplies ghostTrace (by decide)

theorem ghost_returned :
    received ghostTrace = stream ghostReplies ∧
      (∃ rest, co2Read blank ghostTrace = some (0, rest)) ∧
      ∀ reply ∈ ghostReplies, ppm reply.1 ≠ 0 :=
  ⟨by decide, ⟨_, rfl⟩, by decide⟩

theorem complete_iff (replies : List Reply) (trace : List UartRead)
    (whole : received trace = stream replies) (buffer : Buffer) :
    (∃ value rest, co2Read buffer trace = some (value, rest)) ↔
      ∃ before chunk after, trace = before ++ .chunk chunk :: after ∧ chunk.1.length = 9 ∧
        ((received before).length % 9 = 0 ∨ Ghost replies (received before).length) := by
  constructor
  · rintro ⟨value, rest, returned⟩
    obtain ⟨before, read, rfl, _, taken⟩ := (read_some_iff buffer trace value rest).mp returned
    obtain ⟨chunk, rfl, passed, _⟩ := (accepted_some_iff read value).mp taken
    exact ⟨before, chunk, rest, rfl, (chunk_passes_iff replies before chunk rest whole).mp passed⟩
  · rintro ⟨before, chunk, after, rfl, passed⟩
    have taken : accepted (.chunk chunk) = some (ppm chunk.1) :=
      (accepted_some_iff _ _).mpr
        ⟨chunk, rfl, (chunk_passes_iff replies before chunk after whole).mpr passed, rfl⟩
    cases ran : co2Read buffer (before ++ .chunk chunk :: after) with
    | some result => exact ⟨result.1, result.2, rfl⟩
    | none =>
        have refused := (read_none_iff buffer _).mp ran (.chunk chunk) (by simp)
        exact absurd (taken.symm.trans refused) (by simp)

def splitTrace : List UartRead :=
  [.chunk ⟨[0xFF, 0x86, 0x01, 0x90], by decide⟩, .timeout,
    .chunk ⟨[0x00, 0x00, 0x00, 0x00, 0xE9], by decide⟩]

theorem complete_iff_split :
    (∃ value rest, co2Read blank splitTrace = some (value, rest)) ↔
      ∃ before chunk after, splitTrace = before ++ .chunk chunk :: after ∧
        chunk.1.length = 9 ∧ ((received before).length % 9 = 0 ∨
          Ghost (ghostReplies.drop 1) (received before).length) :=
  complete_iff (ghostReplies.drop 1) splitTrace (by decide) blank

theorem split_reply_lost :
    received splitTrace = stream (ghostReplies.drop 1) ∧ co2Read blank splitTrace = none :=
  ⟨by decide, rfl⟩

end AirMonitor.Co2
