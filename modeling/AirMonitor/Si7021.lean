import AirMonitor.Bytes
import AirMonitor.ClimateData

/-!
`si7021.c`. The sensor keeps its last conversion: `0xE5` starts a new one and
answers with its humidity code, `0xE0` answers with the temperature code that the
last conversion took along, whichever call started it. `read_value` looks at no
status, so its result array can hold bytes that no read delivered.
-/

namespace AirMonitor.Si7021
open Bytes

def rhRead : UInt8 := 0xE5
def postRhTempRead : UInt8 := 0xE0

structure Conversion where
  humidity : UInt16
  temperature : UInt16
  deriving DecidableEq

/-- Bus and sensor during one `read_value`: whether the command and the read got
through, what a conversion started now would measure, and the two bytes that
`result` holds when the sensor does not answer this command. -/
structure Exchange where
  commandOk : Bool
  readOk : Bool
  measured : Conversion
  stray : UInt8 × UInt8
  deriving DecidableEq

def convert (last : Option Conversion) (command : UInt8) (exchange : Exchange) : Option Conversion :=
  if exchange.commandOk && command == rhRead then some exchange.measured else last

def answer (last : Option Conversion) (command : UInt8) : Option UInt16 :=
  if command == rhRead then last.map Conversion.humidity
  else if command == postRhTempRead then last.map Conversion.temperature
  else none

def result (last : Option Conversion) (command : UInt8) (exchange : Exchange) : UInt8 × UInt8 :=
  match answer last command with
  | some code =>
      -- without its command the sensor has nothing of this kind to send
      if exchange.commandOk && exchange.readOk then ((code >>> 8).toUInt8, code.toUInt8)
      else exchange.stray
  | none => exchange.stray

def readValue (last : Option Conversion) (command : UInt8) (exchange : Exchange) :
    UInt16 × Option Conversion :=
  let after := convert last command exchange
  let bytes := result after command exchange
  (wordOf bytes.1 bytes.2, after)

def humidityOf (code : UInt16) : ℚ := (code.toNat : ℚ) * 125 / 65536 - 6

def temperatureOf (code : UInt16) : ℚ := (code.toNat : ℚ) * (17572 / 100) / 65536 - 4685 / 100

/-- The sensor's memory and the record the caller passes in. -/
structure Station where
  last : Option Conversion
  data : ClimateData

structure Call where
  humidity : Exchange
  temperature : Exchange
  deriving DecidableEq

def humidityCode (station : Station) (call : Call) : UInt16 :=
  (readValue station.last rhRead call.humidity).1

def temperatureCode (station : Station) (call : Call) : UInt16 :=
  (readValue (readValue station.last rhRead call.humidity).2 postRhTempRead call.temperature).1

def readTempRh (station : Station) (call : Call) : Station :=
  let afterHumidity := (readValue station.last rhRead call.humidity).2
  { last := (readValue afterHumidity postRhTempRead call.temperature).2
    -- no status is looked at: both fields are assigned in every call
    data := { station.data with
      humidity := some (humidityOf (humidityCode station call))
      temperature := some (temperatureOf (temperatureCode station call)) } }

def Call.succeeds (call : Call) : Bool :=
  call.humidity.commandOk && call.humidity.readOk &&
    (call.temperature.commandOk && call.temperature.readOk)

/-- The fields hold one conversion: its humidity and its own temperature. -/
def Shows (data : ClimateData) (conversion : Conversion) : Prop :=
  data.humidity = some (humidityOf conversion.humidity) ∧
    data.temperature = some (temperatureOf conversion.temperature)

def SameFields (before after : ClimateData) : Prop :=
  after.humidity = before.humidity ∧ after.temperature = before.temperature

/-- Other leftovers on the stack where a read failed; what was received is the same. -/
def Exchange.otherwise (exchange : Exchange) (stray : UInt8 × UInt8) : Exchange :=
  if exchange.readOk then exchange else { exchange with stray := stray }

def Call.otherwise (call : Call) (first second : UInt8 × UInt8) : Call :=
  ⟨call.humidity.otherwise first, call.temperature.otherwise second⟩

/-- No field depends on bytes that were not received. -/
def FromReceived (station : Station) (call : Call) : Prop :=
  ∀ first second, SameFields (readTempRh station call).data
    (readTempRh station (call.otherwise first second)).data

/-- All four transactions succeeded and the fields show this call's conversion, or
one failed and the fields are as before; either way from received bytes only. -/
def Atomic (station : Station) (call : Call) : Prop :=
  ((call.succeeds = true ∧ Shows (readTempRh station call).data call.humidity.measured) ∨
    (call.succeeds = false ∧ SameFields station.data (readTempRh station call).data)) ∧
  FromReceived station call

/-- Both reads delivered bytes, and their values are what the fields held already. -/
def Repeats (station : Station) (call : Call) : Prop :=
  call.humidity.readOk = true ∧ call.temperature.readOk = true ∧
    station.data.humidity = some (humidityOf (humidityCode station call)) ∧
    station.data.temperature = some (temperatureOf (temperatureCode station call))

theorem succeeds_iff (call : Call) :
    call.succeeds = true ↔ (call.humidity.commandOk = true ∧ call.humidity.readOk = true) ∧
      call.temperature.commandOk = true ∧ call.temperature.readOk = true := by
  simp [Call.succeeds]

theorem success_codes (station : Station) (call : Call) (success : call.succeeds = true) :
    humidityCode station call = call.humidity.measured.humidity ∧
      temperatureCode station call = call.humidity.measured.temperature := by
  obtain ⟨⟨humidityCommand, humidityRead⟩, temperatureCommand, temperatureRead⟩ :=
    (succeeds_iff call).mp success
  have other : (postRhTempRead == rhRead) = false := rfl
  constructor
  · simp only [humidityCode, readValue, convert, result, answer, humidityCommand, humidityRead,
      beq_self_eq_true, Bool.and_self, ↓reduceIte, Option.map_some]
    exact word_bytes _
  · simp only [temperatureCode, readValue, convert, result, answer, humidityCommand,
      temperatureCommand, temperatureRead, other, beq_self_eq_true, Bool.and_self, Bool.and_false,
      Bool.false_eq_true, ↓reduceIte, Option.map_some]
    exact word_bytes _

theorem success_shows (station : Station) (call : Call) (success : call.succeeds = true) :
    Shows (readTempRh station call).data call.humidity.measured := by
  obtain ⟨humid, warm⟩ := success_codes station call success
  exact ⟨by simp only [readTempRh, humid], by simp only [readTempRh, warm]⟩

theorem failed_result (last : Option Conversion) (command : UInt8) (exchange : Exchange)
    (failed : exchange.readOk = false) (stray : UInt8 × UInt8) :
    result last command (exchange.otherwise stray) = stray := by
  have replaced : exchange.otherwise stray = { exchange with stray := stray } := by
    simp [Exchange.otherwise, failed]
  rw [replaced]
  unfold result
  cases answer last command <;> simp [failed]

/-- Both fields are assigned from whatever `result` holds, so a failed read makes
one of them depend on stack content. -/
theorem from_received_iff (station : Station) (call : Call) :
    FromReceived station call ↔ call.humidity.readOk = true ∧ call.temperature.readOk = true := by
  constructor
  · intro received
    by_contra missing
    -- two different leftovers on the stack would show in a field
    have low := received (0, 0) (0, 0)
    have high := received (0xFF, 0xFF) (0xFF, 0xFF)
    by_cases first : call.humidity.readOk = true
    · have second : call.temperature.readOk = false :=
        eq_false_of_ne_true fun ok => missing ⟨first, ok⟩
      have same := low.2.trans high.2.symm
      simp only [readTempRh, temperatureCode, readValue, Call.otherwise,
        failed_result _ _ _ second] at same
      exact absurd same (by decide +kernel)
    · have same := low.1.trans high.1.symm
      simp only [readTempRh, humidityCode, readValue, Call.otherwise,
        failed_result _ _ _ (eq_false_of_ne_true first)] at same
      exact absurd same (by decide +kernel)
  · rintro ⟨first, second⟩ one two
    have unchanged : call.otherwise one two = call := by
      simp [Call.otherwise, Exchange.otherwise, first, second]
    rw [unchanged]
    exact ⟨rfl, rfl⟩

theorem atomic_iff (station : Station) (call : Call) :
    Atomic station call ↔ call.succeeds = true ∨ Repeats station call := by
  unfold Atomic
  rw [from_received_iff]
  constructor
  · rintro ⟨⟨success, _⟩ | ⟨_, humid, warm⟩, first, second⟩
    · exact Or.inl success
    · exact Or.inr ⟨first, second, humid.symm, warm.symm⟩
  · intro fine
    by_cases success : call.succeeds = true
    · obtain ⟨⟨_, first⟩, _, second⟩ := (succeeds_iff call).mp success
      exact ⟨Or.inl ⟨success, success_shows station call success⟩, first, second⟩
    · obtain ⟨first, second, humid, warm⟩ := fine.resolve_left success
      exact ⟨Or.inr ⟨eq_false_of_ne_true success, humid.symm, warm.symm⟩, first, second⟩

/-! Repeated calls. -/

def repeated : Station → List Call → Station
  | station, [] => station
  | station, call :: rest => repeated (readTempRh station call) rest

/-- Every call of a run with the station it was made in. -/
def steps : Station → List Call → List (Station × Call)
  | _, [] => []
  | station, call :: rest => (station, call) :: steps (readTempRh station call) rest

/-- The published pair is the one from before the run, or shows the conversion of a
call of the run in which all four transactions succeeded. -/
def FromOneConversion (station : Station) (calls : List Call) : Prop :=
  SameFields station.data (repeated station calls).data ∨
    ∃ call ∈ calls, call.succeeds = true ∧ Shows (repeated station calls).data call.humidity.measured

theorem shows_kept (before after : ClimateData) (conversion : Conversion)
    (same : SameFields before after) (shown : Shows before conversion) : Shows after conversion :=
  ⟨same.1.trans shown.1, same.2.trans shown.2⟩

theorem atomic_run_source (station : Station) (calls : List Call)
    (atomic : ∀ step ∈ steps station calls, Atomic step.1 step.2) :
    FromOneConversion station calls := by
  induction calls generalizing station with
  | nil => exact Or.inl ⟨rfl, rfl⟩
  | cons call rest ih =>
      have head := (atomic (station, call) List.mem_cons_self).1
      rcases ih (readTempRh station call)
          (fun step member => atomic step (List.mem_cons_of_mem _ member))
        with same | ⟨source, member, success, shown⟩
      · rcases head with ⟨success, shown⟩ | ⟨_, kept⟩
        · exact Or.inr ⟨call, List.mem_cons_self, success, shows_kept _ _ _ same shown⟩
        · exact Or.inl ⟨same.1.trans kept.1, same.2.trans kept.2⟩
      · exact Or.inr ⟨source, List.mem_cons_of_mem call member, success, shown⟩

theorem atomic_runs_iff (station : Station) (calls : List Call) :
    ((∀ step ∈ steps station calls, Atomic step.1 step.2) ↔
      ∀ step ∈ steps station calls, step.2.succeeds = true ∨ Repeats step.1 step.2) ∧
    ((∀ step ∈ steps station calls, Atomic step.1 step.2) → FromOneConversion station calls) := by
  refine ⟨?_, atomic_run_source station calls⟩
  constructor
  · intro atomic step member
    exact (atomic_iff step.1 step.2).mp (atomic step member)
  · intro fine step member
    exact (atomic_iff step.1 step.2).mpr (fine step member)

/-- The humidity read fails and its two bytes are stack garbage; the other three
transactions succeed. The record then pairs that garbage with a fresh temperature. -/
theorem failed_read_published :
    let measured : Conversion := ⟨0x6000, 0x6800⟩
    let call : Call := ⟨⟨true, false, measured, (0xFF, 0xFF)⟩, ⟨true, true, measured, (0, 0)⟩⟩
    let station : Station := ⟨none, ⟨some 20, some 40, none, none⟩⟩
    ¬ (∀ step ∈ steps station [call], Atomic step.1 step.2) ∧
      (readTempRh station call).data.humidity = some (humidityOf 0xFFFF) := by
  constructor
  · intro atomic
    have received := (from_received_iff _ _).mp (atomic _ List.mem_cons_self).2
    exact absurd received.1 (by decide)
  · decide +kernel

end AirMonitor.Si7021
