import AirMonitor.I2c
import AirMonitor.Si7021

/-!
The two command links of `read_value`. Whatever becomes of their commands, the call
is one of the exchanges of the model without a bus.
-/

namespace AirMonitor.Si7021Link
open Bytes I2c Si7021

def si7021Addr : UInt8 := 0x40

/-- The sensor on the bus: its last conversion, and the bytes of its answer that are
still to be sent. -/
structure Probe where
  last : Option Conversion
  reply : List UInt8

def replyTo (last : Option Conversion) (command : UInt8) : List UInt8 :=
  match answer last command with
  | some code => [(code >>> 8).toUInt8, code.toUInt8]
  | none => []

/-- `measured` is what a conversion started now would measure. -/
def probe (measured : Conversion) : Device Probe where
  address := si7021Addr
  select _ sensor := sensor
  take sensor command :=
    let last := if command == rhRead then some measured else sensor.last
    (true, ⟨last, replyTo last command⟩)
  give sensor := (sensor.reply.headD 0xFF, { sensor with reply := sensor.reply.tail })
  release sensor := sensor

def commandLink (command : UInt8) : List Command :=
  opening si7021Addr .write ++ ([.writeByte command true] ++ [.stop])

def valueLink : List Command :=
  opening si7021Addr .read ++ (readBytes 0 1 ++ [.readByte 1 true, .stop])

/-- What one call of `read_value` meets: what a conversion would measure, the fates of
the commands of its two links, and what `result` holds of the stack. -/
structure Trip where
  measured : Conversion
  fates : Nat → Nat → Fate
  stack : UInt8 × UInt8

/-- The statuses of the links, which the function does not look at, the bytes of
`result` and the sensor. -/
structure Done where
  commandOk : Bool
  readOk : Bool
  result : List UInt8
  sensor : Probe

def Done.value (done : Done) : UInt16 := wordOf (byteAt done.result 0) (byteAt done.result 1)

def readValueLinks (trip : Trip) (command : UInt8) (sensor : Probe) : Done :=
  let first := execute (probe trip.measured) (trip.fates 0) (commandLink command)
    ⟨.free, sensor, [], false⟩
  let second := execute (probe trip.measured) (trip.fates 1) valueLink
    ⟨.free, first.2.device, [trip.stack.1, trip.stack.2], false⟩
  ⟨first.1, second.1, second.2.buffer, second.2.device⟩

theorem answers : (si7021Addr <<< 1) >>> 1 = si7021Addr := by decide

section Links
variable (measured : Conversion)

/-- The command reaches the sensor, or it does not. -/
theorem command_holds (command : UInt8) (sensor : Probe) :
    let after := ((probe measured).take sensor command).2
    Holds (probe measured) (commandLink command)
      (fun wire => ∃ role, Talking role [] sensor wire) (fun wire => wire.device = after)
      (fun wire => wire.device = sensor ∨ wire.device = after) := by
  intro after
  let Inv (now : Probe) : Prop := now = sensor ∨ now = after
  have released : ∀ now, Inv now → Inv ((probe measured).release now) := fun _ inv => inv
  have opened := holds_opening (probe measured) Inv released sensor (.inl rfl) [] si7021Addr answers
    .write (.inl rfl)
  have sent := holds_take (probe measured) Inv released sensor (.inl rfl) [] (fun _ _ => rfl) command
    true (.inr rfl)
  have stopped := holds_stop (probe measured) Inv released after (.inr rfl) [] .listening
  have whole := holds_append _ _ _ _ _ _ _ opened (holds_append _ _ _ _ _ _ _ sent stopped)
  exact holds_weaken _ _ _ _ _ _ _ _ (fun _ before => before) (fun _ talking => talking.device)
    (fun _ still => still.kept) whole

/-- Up to two bytes of the answer go into `result`. -/
theorem value_holds (sensor : Probe) (stack : UInt8 × UInt8) :
    Holds (probe measured) valueLink
      (fun wire => ∃ role, Talking role [stack.1, stack.2] sensor wire)
      (fun wire => wire.device.last = sensor.last ∧ wire.buffer = sent (probe measured) 2 sensor)
      (fun wire => wire.device.last = sensor.last) := by
  have opened := holds_opening (probe measured) (fun now => now.last = sensor.last)
    (fun _ same => same) sensor rfl [stack.1, stack.2] si7021Addr answers .read rfl
  have burst := holds_burst (probe measured) (fun now => now.last = sensor.last)
    (fun _ same => same) (fun _ same => same) 1 [] [stack.1, stack.2] (by simp) sensor rfl
  refine holds_append _ _ _ _ _ _ _ (holds_weaken _ _ _ _ _ _ _ _ (fun _ before => before)
    (fun _ after => after) (fun _ still => still.kept) opened)
    (holds_weaken _ _ _ _ _ _ _ _ (fun _ before => before) ?_ (fun _ partly => partly.kept) burst)
  rintro wire ⟨kept, _, told⟩
  refine ⟨kept, ?_⟩
  rw [told, List.nil_append]
  rfl

/-- Two bytes sent in answer to a command are its code. -/
theorem sent_answer (command : UInt8) (sensor : Probe) (code : UInt16)
    (known : answer ((probe measured).take sensor command).2.last command = some code) :
    sent (probe measured) 2 ((probe measured).take sensor command).2 =
      [(code >>> 8).toUInt8, code.toUInt8] := by
  have reply : ((probe measured).take sensor command).2.reply =
      [(code >>> 8).toUInt8, code.toUInt8] := by
    have whole : ((probe measured).take sensor command).2.reply =
        replyTo ((probe measured).take sensor command).2.last command := rfl
    rw [whole, replyTo, known]
  simp only [sent, probe] at reply ⊢
  rw [reply]
  rfl

/-- A call whose command reached the sensor, and one whose command did not. -/
theorem answered_exchange (last : Option Conversion) (command : UInt8) (readOk : Bool)
    (bytes : UInt8 × UInt8)
    (told : readOk = true → ∀ code, answer (if command == rhRead then some measured else last)
      command = some code → bytes = ((code >>> 8).toUInt8, code.toUInt8)) :
    readValue last command ⟨true, readOk, measured, bytes⟩ =
      (wordOf bytes.1 bytes.2, if command == rhRead then some measured else last) := by
  have after : convert last command ⟨true, readOk, measured, bytes⟩ =
      if command == rhRead then some measured else last := by
    simp only [convert, Bool.true_and]
  have same : result (if command == rhRead then some measured else last) command
      ⟨true, readOk, measured, bytes⟩ = bytes := by
    simp only [result, Bool.true_and]
    split
    · rename_i code known
      split
      · rename_i ran
        exact (told ran code known).symm
      · rfl
    · rfl
  rw [readValue, after, same]

theorem unanswered_exchange (last : Option Conversion) (command : UInt8) (readOk : Bool)
    (bytes : UInt8 × UInt8) :
    readValue last command ⟨false, readOk, measured, bytes⟩ = (wordOf bytes.1 bytes.2, last) := by
  have same : result last command ⟨false, readOk, measured, bytes⟩ = bytes := by
    simp only [result, Bool.false_and]
    split <;> rfl
  have after : convert last command ⟨false, readOk, measured, bytes⟩ = last := by
    simp only [convert, Bool.false_and]
    rfl
  rw [readValue, after, same]

end Links

/-- An exchange that a call of `read_value` can have been. -/
structure Explains (trip : Trip) (done : Done) (exchange : Exchange) : Prop where
  measured : exchange.measured = trip.measured
  command : done.commandOk = true → exchange.commandOk = true
  read : done.readOk = true → exchange.readOk = true

theorem read_value_refines (trip : Trip) (command : UInt8) (sensor : Probe) :
    let done := readValueLinks trip command sensor
    ∃ exchange, Explains trip done exchange ∧
      (done.value, done.sensor.last) = readValue sensor.last command exchange := by
  intro done
  let took := ((probe trip.measured).take sensor command).2
  let asked := execute (probe trip.measured) (trip.fates 0) (commandLink command)
    ⟨.free, sensor, [], false⟩
  have commanded := command_holds trip.measured command sensor
  have reached : asked.2.device = sensor ∨ asked.2.device = took :=
    holds_either _ _ _ _ _ (fun wire => wire.device = sensor ∨ wire.device = took) commanded
      (fun _ same => .inr same) (fun _ either => either) _ _ ⟨.free, rfl, rfl, rfl, rfl⟩
  have arrived : done.commandOk = true → asked.2.device = took :=
    (commanded (trip.fates 0) ⟨.free, sensor, [], false⟩ ⟨.free, rfl, rfl, rfl, rfl⟩).1
  have value := value_holds trip.measured asked.2.device trip.stack
  have began : ∃ role, Talking role [trip.stack.1, trip.stack.2] asked.2.device
      ⟨.free, asked.2.device, [trip.stack.1, trip.stack.2], false⟩ := ⟨.free, rfl, rfl, rfl, rfl⟩
  have last : done.sensor.last = asked.2.device.last :=
    holds_either _ _ _ _ _ (fun wire => wire.device.last = asked.2.device.last) value
      (fun _ told => told.1) (fun _ same => same) _ _ began
  have told : done.readOk = true → done.result = sent (probe trip.measured) 2 asked.2.device :=
    fun ran => ((value (trip.fates 1) _ began).1 ran).2
  let bytes := (byteAt done.result 0, byteAt done.result 1)
  by_cases heard : asked.2.device = took
  · refine ⟨⟨true, done.readOk, trip.measured, bytes⟩, ⟨rfl, fun _ => rfl, id⟩, ?_⟩
    rw [answered_exchange trip.measured sensor.last command done.readOk bytes, last, heard]
    · rfl
    · intro ran code known
      have sent := sent_answer trip.measured command sensor code known
      have whole : done.result = [(code >>> 8).toUInt8, code.toUInt8] := by
        rw [told ran, heard]
        exact sent
      simp only [bytes, whole]
      rfl
  · have missed : asked.2.device = sensor := reached.resolve_right heard
    refine ⟨⟨false, done.readOk, trip.measured, bytes⟩,
      ⟨rfl, fun ok => absurd (arrived ok) heard, id⟩, ?_⟩
    rw [unanswered_exchange trip.measured sensor.last command done.readOk bytes, last, missed]
    rfl

/-! `read_temp_rh` and the loop of `temperature_humidity_task`. -/

structure Turn where
  humidity : Trip
  temperature : Trip

/-- Sensor and record. -/
structure Room where
  sensor : Probe
  data : ClimateData

def Room.station (room : Room) : Station := ⟨room.sensor.last, room.data⟩

def Room.humid (room : Room) (turn : Turn) : Done := readValueLinks turn.humidity rhRead room.sensor

def Room.warm (room : Room) (turn : Turn) : Done :=
  readValueLinks turn.temperature postRhTempRead (room.humid turn).sensor

def readTempRhLinks (room : Room) (turn : Turn) : Room where
  sensor := (room.warm turn).sensor
  data := { room.data with
    humidity := some (humidityOf (room.humid turn).value)
    temperature := some (temperatureOf (room.warm turn).value) }

/-- The passes of `temperature_humidity_task`. -/
def taskLinks : Room → List Turn → Room
  | room, [] => room
  | room, turn :: rest => taskLinks (readTempRhLinks room turn) rest

/-- A call that a turn can have been. -/
def Matches (room : Room) (turn : Turn) (call : Call) : Prop :=
  Explains turn.humidity (room.humid turn) call.humidity ∧
    Explains turn.temperature (room.warm turn) call.temperature

theorem turn_refines (room : Room) (turn : Turn) :
    ∃ call, Matches room turn call ∧
      (readTempRhLinks room turn).station = readTempRh room.station call := by
  obtain ⟨first, explained, humid⟩ := read_value_refines turn.humidity rhRead room.sensor
  obtain ⟨second, also, warm⟩ :=
    read_value_refines turn.temperature postRhTempRead (room.humid turn).sensor
  have one : humidityCode room.station ⟨first, second⟩ = (room.humid turn).value :=
    congrArg Prod.fst humid.symm
  have middle : (readValue room.sensor.last rhRead first).2 = (room.humid turn).sensor.last :=
    congrArg Prod.snd humid.symm
  have two : temperatureCode room.station ⟨first, second⟩ = (room.warm turn).value := by
    simp only [temperatureCode, Room.station, middle]
    exact congrArg Prod.fst warm.symm
  have last : (readValue (room.humid turn).sensor.last postRhTempRead second).2 =
      (room.warm turn).sensor.last := congrArg Prod.snd warm.symm
  refine ⟨⟨first, second⟩, ⟨explained, also⟩, ?_⟩
  simp only [readTempRh, one, two]
  simp only [Room.station, readTempRhLinks, middle, last]

/-- The rooms before the turns, each with its turn. -/
def turns : Room → List Turn → List (Room × Turn)
  | _, [] => []
  | room, turn :: rest => (room, turn) :: turns (readTempRhLinks room turn) rest

/-- All four links of a turn ran to their ends. -/
structure Clean (room : Room) (turn : Turn) : Prop where
  asked : (room.humid turn).commandOk = true
  told : (room.humid turn).readOk = true
  askedAgain : (room.warm turn).commandOk = true
  toldAgain : (room.warm turn).readOk = true

theorem clean_shows (room : Room) (turn : Turn) (clean : Clean room turn) :
    Shows (readTempRhLinks room turn).data turn.humidity.measured := by
  obtain ⟨call, ⟨humid, warm⟩, same⟩ := turn_refines room turn
  have success : call.succeeds = true :=
    (succeeds_iff call).mpr ⟨⟨humid.command clean.asked, humid.read clean.told⟩,
      warm.command clean.askedAgain, warm.read clean.toldAgain⟩
  have shown := success_shows room.station call success
  rw [← same, humid.measured] at shown
  exact shown

theorem task_links_append (room : Room) (front back : List Turn) :
    taskLinks room (front ++ back) = taskLinks (taskLinks room front) back := by
  induction front generalizing room with
  | nil => rfl
  | cons turn rest ih => exact ih (readTempRhLinks room turn)

theorem task_explained (room : Room) (trace : List Turn) :
    ∃ calls, List.Forall₂ (fun (before : Room × Turn) call => Matches before.1 before.2 call)
        (turns room trace) calls ∧
      (taskLinks room trace).station = repeated room.station calls := by
  induction trace generalizing room with
  | nil => exact ⟨[], .nil, rfl⟩
  | cons turn rest ih =>
      obtain ⟨call, matched, now⟩ := turn_refines room turn
      obtain ⟨calls, all, later⟩ := ih (readTempRhLinks room turn)
      refine ⟨call :: calls, .cons matched all, ?_⟩
      rw [taskLinks, later, now]
      rfl

/-- The task on the bus is the task on exchanges, and after a turn without a fault the
record shows what that turn measured. -/
theorem task_refines (room : Room) (trace : List Turn) :
    (∃ calls, List.Forall₂ (fun (before : Room × Turn) call => Matches before.1 before.2 call)
        (turns room trace) calls ∧
      (taskLinks room trace).station = repeated room.station calls) ∧
    ∀ front turn, trace = front ++ [turn] → Clean (taskLinks room front) turn →
      Shows (taskLinks room trace).data turn.humidity.measured := by
  refine ⟨task_explained room trace, ?_⟩
  rintro front turn rfl clean
  rw [task_links_append]
  exact clean_shows (taskLinks room front) turn clean

def dampRoom : Room := ⟨⟨none, []⟩, .indeterminate⟩

/-- The read of the temperature breaks off after its first byte. -/
def tornTurn : Turn where
  humidity := ⟨⟨0x7000, 0x6000⟩, fun _ _ => .through, (0, 0)⟩
  temperature := ⟨⟨0x7000, 0x6000⟩, fun link i => if link = 1 ∧ i = 3 then .lost else .through, (0, 0)⟩

def wholeTurn : Turn where
  humidity := ⟨⟨0x7400, 0x6200⟩, fun _ _ => .through, (0xAA, 0xAA)⟩
  temperature := ⟨⟨0, 0⟩, fun _ _ => .through, (0xAA, 0xAA)⟩

theorem task_refines_torn :
    ¬ Clean dampRoom tornTurn ∧
      Shows (taskLinks dampRoom [tornTurn, wholeTurn]).data ⟨0x7400, 0x6200⟩ := by
  constructor
  · intro clean
    exact absurd clean.toldAgain (by decide +kernel)
  · exact (task_refines dampRoom [tornTurn, wholeTurn]).2 [tornTurn] wholeTurn rfl
      ⟨by decide +kernel, by decide +kernel, by decide +kernel, by decide +kernel⟩

end AirMonitor.Si7021Link
