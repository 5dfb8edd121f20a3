import AirMonitor.DriverFrame

/-!
A BMP280 behind a bus with a script of faults: every transaction takes the next
outcome, and past the end of the script every transaction succeeds. A failed
read may leave anything in the buffer, its old bytes included.
-/

namespace AirMonitor.Sensor
open Bytes Bmp280 Pressure DriverFrame

abbrev ChipId := { value : UInt8 // isChipId value = true }

/-- A failed read puts bytes at some places of the buffer, or at none; a failed
write is carried out, or not. -/
inductive Outcome where
  | done
  | failed (bytes : Nat → Option UInt8) (written : Bool)

def Outcome.ok : Outcome → Bool
  | .done => true
  | .failed _ _ => false

/-- The byte a read leaves at a place, from the register's and the one before it. -/
def Outcome.leaves (outcome : Outcome) (index : Nat) (held before : UInt8) : UInt8 :=
  match outcome with
  | .done => held
  | .failed bytes _ => (bytes index).getD before

def Outcome.writes : Outcome → Bool
  | .done => true
  | .failed _ written => written

def upcoming (script : List Outcome) : Outcome := script.headD .done

/-- `sample n` is the content of the data registers while `n` outcomes of the
script are left, so `sample 0` is what they hold for good. -/
structure Chip where
  chipId : ChipId
  nvm : Nat → UInt8
  sample : Nat → Nat → UInt8

structure ChipState where
  script : List Outcome
  ctrlMeas : UInt8
  config : UInt8

def Chip.register (chip : Chip) (state : ChipState) (addr : Nat) : UInt8 :=
  if addr = 0xD0 then chip.chipId.1
  -- 24 calibration bytes, then the two control registers, then the data frame
  else if 0x88 ≤ addr ∧ addr < 0xA0 then chip.nvm (addr - 0x88)
  else if addr = 0xF4 then state.ctrlMeas
  else if addr = 0xF5 then state.config
  else if 0xF7 ≤ addr ∧ addr < 0xFD then chip.sample state.script.length (addr - 0xF7)
  else 0

def Chip.read (chip : Chip) (state : ChipState) (reg : UInt8) (buffer : List UInt8) :
    Bool × List UInt8 × ChipState :=
  let outcome := upcoming state.script
  (outcome.ok,
    (List.range buffer.length).map fun i =>
      outcome.leaves i (chip.register state (reg.toNat + i)) (byteAt buffer i),
    { state with script := state.script.tail })

def writeRegister (state : ChipState) (reg value : UInt8) : ChipState :=
  if reg = ctrlMeasReg then { state with ctrlMeas := value }
  else if reg = configReg then { state with config := value }
  else if reg = rstReg ∧ value = softResetCode then { state with ctrlMeas := 0, config := 0 }
  else state

def Chip.write (state : ChipState) (reg : UInt8) (bytes : List UInt8) : Bool × ChipState :=
  let outcome := upcoming state.script
  let rest := { state with script := state.script.tail }
  (outcome.ok, if outcome.writes then writeRegister rest reg (byteAt bytes 0) else rest)

abbrev Fail := { status : Int8 // status ≠ 0 }

theorem fail_nonzero (fail : Fail) : fail.1 ≠ 0 := fail.2

def Chip.bus (chip : Chip) (fail : Fail) : Bus ChipState where
  write state _ reg bytes := Chip.write state reg bytes
  read state _ reg buffer := chip.read state reg buffer
  readLength _ _ _ _ := by simp [Chip.read]
  fail := fail.1
  failNonzero := fail_nonzero fail

def Chip.calib (chip : Chip) : CalibParam := decodeCalib ((List.range calibDataSize).map chip.nvm) 0

/-- The frame that a data transfer leaves in the driver's zeroed buffer. -/
def Chip.frame (chip : Chip) (script : List Outcome) : List UInt8 :=
  (List.range dataFrameSize).map fun i => (upcoming script).leaves i (chip.sample script.length i) 0

/-- What the chip holds for good, compensated with its own coefficients. -/
def Chip.reading (chip : Chip) : UInt32 × Int32 := compensate chip.calib (rawPair (chip.frame []))

def boot (script : List Outcome) : Driver ChipState := ⟨Bmp280T.zero, false, ⟨script, 0, 0⟩⟩

/-- The calibration registers that hold the given coefficients. -/
def nvmOf (calib : CalibParam) (index : Nat) : UInt8 :=
  let words : List UInt16 := [calib.digT1, calib.digT2.toUInt16, calib.digT3.toUInt16, calib.digP1,
    calib.digP2.toUInt16, calib.digP3.toUInt16, calib.digP4.toUInt16, calib.digP5.toUInt16,
    calib.digP6.toUInt16, calib.digP7.toUInt16, calib.digP8.toUInt16, calib.digP9.toUInt16]
  let value := words.getD (index / 2) 0
  if index % 2 = 0 then value.toUInt8 else (value >>> 8).toUInt8

/-- A chip that always holds one frame. -/
def steadyChip (chipId : ChipId) (calib : CalibParam) (frame : List UInt8) : Chip where
  chipId := chipId
  nvm := nvmOf calib
  sample _ := byteAt frame

theorem steady_calib (chipId : ChipId) (calib : CalibParam) (frame : List UInt8) :
    (steadyChip chipId calib frame).calib = trim calib := by
  have words (low high : UInt8) (value : UInt16) (one : low = value.toUInt8)
      (two : high = (value >>> 8).toUInt8) :
      wordOf high low = value := by
    rw [one, two]
    exact word_bytes value
  cases calib
  simp only [Chip.calib, decodeCalib, trim, CalibParam.mk.injEq, and_true, word]
  exact ⟨words _ _ _ rfl rfl, congrArg UInt16.toInt16 (words _ _ _ rfl rfl),
    congrArg UInt16.toInt16 (words _ _ _ rfl rfl), words _ _ _ rfl rfl,
    congrArg UInt16.toInt16 (words _ _ _ rfl rfl), congrArg UInt16.toInt16 (words _ _ _ rfl rfl),
    congrArg UInt16.toInt16 (words _ _ _ rfl rfl), congrArg UInt16.toInt16 (words _ _ _ rfl rfl),
    congrArg UInt16.toInt16 (words _ _ _ rfl rfl), congrArg UInt16.toInt16 (words _ _ _ rfl rfl),
    congrArg UInt16.toInt16 (words _ _ _ rfl rfl), congrArg UInt16.toInt16 (words _ _ _ rfl rfl)⟩

theorem steady_raw (chipId : ChipId) (calib : CalibParam) (frame : List UInt8) :
    rawPair ((steadyChip chipId calib frame).frame []) = rawPair frame := rfl

theorem steady_trim (chipId : ChipId) (calib : CalibParam) (frame : List UInt8) :
    trim (steadyChip chipId calib frame).calib = trim calib := by
  rw [steady_calib]
  rfl

theorem steady_first (chipId : ChipId) (calib : CalibParam) (frame : List UInt8) :
    (steadyChip chipId calib frame).reading = compensate calib (rawPair frame) := by
  rw [Chip.reading, steady_calib, steady_raw, compensate_trim]

/-! How much of the script each call takes. A setter spends its write only after
a successful read. -/

def afterSetter (script : List Outcome) : List Outcome :=
  if (upcoming script).ok then script.tail.tail else script.tail

def afterSetup (script : List Outcome) : List Outcome :=
  afterSetter (afterSetter (afterSetter (afterSetter script.tail)))

/-- A try at the chip id after which the byte read is one. -/
def Outcome.identifies : Outcome → Bool
  | .done => true
  | .failed bytes _ => (bytes 0).any isChipId

/-- The number of tries in front of the first that identifies the chip. -/
def failures : List Outcome → Nat
  | [] => 0
  | outcome :: rest => if outcome.identifies then 0 else failures rest + 1

def afterChipId (script : List Outcome) : List Outcome :=
  if failures script < chipIdReadCount then script.drop (failures script + 1)
  else script.drop chipIdReadCount

def afterInit (script : List Outcome) : List Outcome :=
  if failures script < chipIdReadCount then afterSetup (afterChipId script).tail
  else afterSetup (afterChipId script)

/-- The calibration bytes that a read leaves in the driver's zeroed buffer. -/
def Chip.calibBytes (chip : Chip) (script : List Outcome) : List UInt8 :=
  (List.range calibDataSize).map fun i => (upcoming script).leaves i (chip.nvm i) 0

/-- The coefficients that `pressure_init` leaves: decoded from what the calibration
read left in the buffer, or the old ones when no try identifies the chip. -/
def Chip.loads (chip : Chip) (prior : CalibParam) (script : List Outcome) : CalibParam :=
  if failures script < chipIdReadCount then decodeCalib (chip.calibBytes (afterChipId script)) 0
  else trim prior

/-- What is left of the script after a pass of `read_pressure` that did not decide. -/
def Chip.afterPass (chip : Chip) (calib : CalibParam) (script : List Outcome) : List Outcome :=
  let value := compensate calib (rawPair (chip.frame script))
  if credible value.1 value.2 then afterSetup script.tail.tail
  else if rawPair (chip.frame script.tail) = resetRaw then afterSetup script.tail.tail.tail
  else script.tail.tail

/-- The readings of that many passes, as long as none decides. -/
def Chip.readings (chip : Chip) (calib : CalibParam) : Nat → List Outcome → List (UInt32 × Int32)
  | 0, _ => []
  | count + 1, script =>
      compensate calib (rawPair (chip.frame script)) ::
        chip.readings calib count (chip.afterPass calib script)

section Script
variable (chip : Chip) (fail : Fail)

theorem write_script (driver : Driver ChipState) (reg : UInt8) (bytes : List UInt8) :
    (busWrite (chip.bus fail) driver reg bytes).2.env.script = driver.env.script.tail := by
  have kept (state : ChipState) (value : UInt8) :
      (writeRegister state reg value).script = state.script := by
    unfold writeRegister
    split
    · rfl
    · split
      · rfl
      · split <;> rfl
  simp only [busWrite, Chip.bus, Chip.write]
  split
  · rw [kept]
  · rfl

theorem read_script (driver : Driver ChipState) (reg : UInt8) (bytes : List UInt8) :
    (busRead (chip.bus fail) driver reg bytes).2.2.env.script = driver.env.script.tail := rfl

theorem read_status (driver : Driver ChipState) (reg : UInt8) (bytes : List UInt8) :
    ((busRead (chip.bus fail) driver reg bytes).1 == success) = (upcoming driver.env.script).ok := by
  have different : (fail.1 == success) = false := by simpa [success] using fail.2
  by_cases ok : (upcoming driver.env.script).ok = true
  · simp [busRead, Chip.bus, Chip.read, ok]
  · simp [busRead, Chip.bus, Chip.read, ok, different]

theorem set_field_script (reg mask pos value : UInt8) (shadow : Bmp280T → Bmp280T)
    (driver : Driver ChipState) (attached : driver.attached = true) :
    (setField (chip.bus fail) reg mask pos value shadow driver).2.env.script =
      afterSetter driver.env.script := by
  simp only [setField, attached, ↓reduceIte, read_status, afterSetter]
  split
  · exact write_script chip fail _ _ _
  · rfl

theorem set_power_mode_script (driver : Driver ChipState) (attached : driver.attached = true) :
    (bmp280SetPowerMode (chip.bus fail) normalMode driver).2.env.script = driver.env.script.tail := by
  simp only [bmp280SetPowerMode, attached, ↓reduceIte]
  exact write_script chip fail _ _ _

theorem set_soft_rst_script (driver : Driver ChipState) (attached : driver.attached = true) :
    (bmp280SetSoftRst (chip.bus fail) driver).2.env.script = driver.env.script.tail := by
  simp only [bmp280SetSoftRst, attached, ↓reduceIte]
  exact write_script chip fail _ _ _

theorem setup_script (driver : Driver ChipState) (attached : driver.attached = true) :
    (pressureSetup (chip.bus fail) driver).2.env.script = afterSetup driver.env.script := by
  have mode := (set_power_mode_keeps (chip.bus fail) normalMode driver).attached.trans attached
  have press := (set_field_keeps (chip.bus fail) ctrlMeasReg 0x1C 2
    ultraHighResolutionOversampPressure
    (fun chip => { chip with oversampPressure := ultraHighResolutionOversampPressure })
    (fun _ => rfl) _).attached.trans mode
  have temp := (set_field_keeps (chip.bus fail) ctrlMeasReg 0xE0 5
    ultraHighResolutionOversampTemperature
    (fun chip => { chip with oversampTemperature := ultraHighResolutionOversampTemperature })
    (fun _ => rfl) _).attached.trans press
  have standby := (set_field_keeps (chip.bus fail) configReg 0xE0 5 standbyTime1Ms id
    (fun _ => rfl) _).attached.trans temp
  simp only [pressureSetup, bmp280SetFilter, bmp280SetStandbyDurn, bmp280SetOversampTemperature,
    bmp280SetOversampPressure]
  rw [set_field_script chip fail _ _ _ _ _ _ standby, set_field_script chip fail _ _ _ _ _ _ temp,
    set_field_script chip fail _ _ _ _ _ _ press, set_field_script chip fail _ _ _ _ _ _ mode,
    set_power_mode_script chip fail driver attached]
  rfl

theorem reset_script (driver : Driver ChipState) (attached : driver.attached = true) :
    (pressureReset (chip.bus fail) driver).env.script = afterSetup driver.env.script.tail := by
  have kept := (set_soft_rst_keeps (chip.bus fail) driver).attached.trans attached
  rw [pressureReset, setup_script chip fail _ kept, set_soft_rst_script chip fail driver attached]

/-! What the reads deliver. -/

theorem transfer_frame (driver : Driver ChipState) :
    (transfer (chip.bus fail) driver).2.1 = chip.frame driver.env.script := by
  simp only [transfer, Chip.bus, Chip.read, Chip.frame, List.length_replicate]
  apply List.map_congr_left
  intro i inside
  have bound : i < 6 := List.mem_range.mp inside
  have address : pressureMsbReg.toNat + i = 0xF7 + i := rfl
  rw [address, byte_zeros]
  simp only [Chip.register]
  rw [if_neg (by omega), if_neg (by omega), if_neg (by omega), if_neg (by omega), if_pos (by omega),
    Nat.add_sub_cancel_left]

theorem received_script (driver : Driver ChipState) :
    (received (chip.bus fail) driver).env.script = driver.env.script.tail := rfl

theorem recheck_script (driver : Driver ChipState) (attached : driver.attached = true) :
    (recheck (chip.bus fail) driver).2.env.script =
      if rawPair (chip.frame driver.env.script) = resetRaw then
        afterSetup driver.env.script.tail.tail
      else driver.env.script.tail := by
  have again := read_uncomp_pressure_temperature_eq (chip.bus fail) driver (0, 0) attached
  rw [transfer_frame chip fail] at again
  have rest : (transfer (chip.bus fail) driver).2.2.script = driver.env.script.tail := rfl
  have same (raw : Int32 × Int32) : raw.1 = 524288 ∧ raw.2 = 524288 ↔ raw = resetRaw := by
    rw [resetRaw, Prod.ext_iff]
  simp only [recheck, again, same]
  split
  · rw [reset_script chip fail]
    · rw [rest]
    · exact attached
  · exact rest

/-- What a pass takes off the script when it does not decide. -/
theorem pass_script (state : LoopState ChipState) (attached : state.driver.attached = true)
    (missed : decides (reading (chip.bus fail) state.driver) = false) :
    (readPressurePass (chip.bus fail) state).driver.env.script =
      chip.afterPass state.driver.bmp280.calibParam state.driver.env.script := by
  have got := read_pressure_temperature_eq (chip.bus fail) state.driver state.pressure state.temp
    attached
  have kept : (received (chip.bus fail) state.driver).attached = true := attached
  have script := received_script chip fail state.driver
  have value : reading (chip.bus fail) state.driver =
      compensate state.driver.bmp280.calibParam (rawPair (chip.frame state.driver.env.script)) := by
    rw [reading, transfer_frame]
  rw [value] at got missed
  simp only [readPressurePass, got, Chip.afterPass]
  split
  · rename_i fine
    have low : (compensate state.driver.bmp280.calibParam
        (rawPair (chip.frame state.driver.env.script))).1 < 75000 := by
      simpa [decides, fine] using missed
    rw [if_pos low, reset_script chip fail _ kept, script]
  · rw [recheck_script chip fail _ kept, script]

theorem after_setter_suffix (script : List Outcome) : afterSetter script <:+ script := by
  unfold afterSetter
  split
  · exact (List.tail_suffix _).trans (List.tail_suffix _)
  · exact List.tail_suffix _

theorem after_setup_suffix (script : List Outcome) : afterSetup script <:+ script :=
  (after_setter_suffix _).trans ((after_setter_suffix _).trans
    ((after_setter_suffix _).trans ((after_setter_suffix _).trans (List.tail_suffix _))))

/-- A pass takes at least its own data transfer off the script. -/
theorem after_pass_suffix (calib : CalibParam) (script : List Outcome) :
    chip.afterPass calib script <:+ script.tail := by
  unfold Chip.afterPass
  dsimp only
  split
  · exact (after_setup_suffix _).trans (List.tail_suffix _)
  · split
    · exact (after_setup_suffix _).trans ((List.tail_suffix _).trans (List.tail_suffix _))
    · exact List.tail_suffix _

theorem after_pass_congr (left right : CalibParam) (same : trim left = trim right)
    (script : List Outcome) : chip.afterPass left script = chip.afterPass right script := by
  simp only [Chip.afterPass, compensate_congr left right same]

theorem readings_congr (left right : CalibParam) (same : trim left = trim right) (count : Nat)
    (script : List Outcome) : chip.readings left count script = chip.readings right count script := by
  induction count generalizing script with
  | zero => rfl
  | succ count ih =>
      rw [Chip.readings, Chip.readings, compensate_congr left right same,
        after_pass_congr chip left right same, ih]

/-! `pressure_init`: which coefficients it leaves in memory, and what is left of
the script for the loop. -/

theorem calib_read (driver : Driver ChipState) (attached : driver.attached = true) :
    trim (bmp280GetCalibParam (chip.bus fail) driver).2.bmp280.calibParam =
      decodeCalib (chip.calibBytes driver.env.script) 0 := by
  have bytes : (busRead (chip.bus fail) driver temperatureCalibDigT1LsbReg
      (List.replicate calibDataSize 0)).2.1 = chip.calibBytes driver.env.script := by
    simp only [busRead, Chip.bus, Chip.read, Chip.calibBytes, List.length_replicate]
    apply List.map_congr_left
    intro i inside
    have bound : i < 24 := List.mem_range.mp inside
    have address : temperatureCalibDigT1LsbReg.toNat + i = 0x88 + i := rfl
    rw [address, byte_zeros]
    simp only [Chip.register]
    rw [if_neg (by omega), if_pos (by omega), Nat.add_sub_cancel_left]
  simp only [bmp280GetCalibParam, attached, ↓reduceIte, bytes]
  rfl

theorem read_chip_id_calib (count : Nat) (value : UInt8) (driver : Driver ChipState) :
    (readChipId (chip.bus fail) count value driver).2.2.bmp280.calibParam =
      driver.bmp280.calibParam := by
  induction count generalizing value driver with
  | zero => rfl
  | succ count ih =>
      simp only [readChipId]
      split
      · rfl
      · rw [ih]
        rfl

/-- The byte is a chip id after a try that identifies the chip and after no other. -/
theorem chip_id_read (driver : Driver ChipState) (value : UInt8) (unknown : isChipId value = false) :
    isChipId (byteAt (busRead (chip.bus fail) driver chipIdReg [value]).2.1 0) =
      (upcoming driver.env.script).identifies := by
  have byte : byteAt (busRead (chip.bus fail) driver chipIdReg [value]).2.1 0 =
      (upcoming driver.env.script).leaves 0 chip.chipId.1 value := rfl
  rw [byte]
  cases upcoming driver.env.script with
  | done => exact chip.chipId.2
  | failed bytes written =>
      cases put : bytes 0 with
      | none => simp [Outcome.leaves, Outcome.identifies, put, unknown]
      | some byte => simp [Outcome.leaves, Outcome.identifies, put]

/-- The chip id loop ends early on the first try that identifies the chip. -/
theorem read_chip_id_script (count : Nat) (value : UInt8) (unknown : isChipId value = false)
    (driver : Driver ChipState) :
    ((readChipId (chip.bus fail) count value driver).1 = 0 ↔ count ≤ failures driver.env.script) ∧
    (readChipId (chip.bus fail) count value driver).2.2.env.script =
      if failures driver.env.script < count then driver.env.script.drop (failures driver.env.script + 1)
      else driver.env.script.drop count := by
  induction count generalizing value driver with
  | zero => simp [readChipId]
  | succ count ih =>
      have found := chip_id_read chip fail driver value unknown
      have rest := read_script chip fail driver chipIdReg [value]
      cases script : driver.env.script with
      | nil =>
          rw [script] at found rest
          simp only [upcoming, List.headD_nil, Outcome.identifies] at found
          simp only [readChipId, found]
          simp [rest, failures]
      | cons outcome tail =>
          rw [script] at found rest
          simp only [upcoming, List.headD_cons] at found
          cases named : outcome.identifies with
          | true =>
              rw [named] at found
              simp only [readChipId, found]
              simp [rest, failures, named]
          | false =>
              rw [named] at found
              have more := ih _ found (busRead (chip.bus fail) driver chipIdReg [value]).2.2
              simp only [rest, List.tail_cons] at more
              simp only [readChipId, found]
              simpa [failures, named] using more

theorem init_loads (driver : Driver ChipState) :
    trim (pressureInit (chip.bus fail) driver).bmp280.calibParam =
        chip.loads driver.bmp280.calibParam driver.env.script ∧
      (pressureInit (chip.bus fail) driver).env.script = afterInit driver.env.script := by
  let addressed : Driver ChipState :=
    { driver with bmp280 := { driver.bmp280 with devAddr := i2cAddress1 } }
  have attached := init_attached (chip.bus fail) addressed
  have kept := setup_keeps (chip.bus fail) (bmp280Init (chip.bus fail) addressed).2
  have setup := setup_script chip fail _ attached
  have ids := read_chip_id_script chip fail chipIdReadCount 0 rfl { addressed with attached := true }
  have calib := read_chip_id_calib chip fail chipIdReadCount 0 { addressed with attached := true }
  have named := identified_attached (chip.bus fail) addressed
  have start : (identified (chip.bus fail) addressed).env.script = afterChipId driver.env.script :=
    ids.2
  have count := ids.1
  unfold pressureInit
  rw [kept.coefficients, setup, init_driver]
  by_cases spent : chipIdReadCount ≤ failures driver.env.script
  · have short : ¬ failures driver.env.script < chipIdReadCount := by omega
    rw [if_pos (count.mpr spent), start]
    simp only [Chip.loads, afterInit, short, ↓reduceIte, and_true]
    exact congrArg trim calib
  · have early : failures driver.env.script < chipIdReadCount := by omega
    rw [if_neg (fun none => spent (count.mp none)), calib_read chip fail _ named]
    have rest :
        (bmp280GetCalibParam (chip.bus fail) (identified (chip.bus fail) addressed)).2.env.script =
          (afterChipId driver.env.script).tail := by
      rw [← start]
      simp only [bmp280GetCalibParam, named, ↓reduceIte]
      rfl
    rw [rest, start]
    simp only [Chip.loads, afterInit, early, ↓reduceIte, and_true]

end Script

end AirMonitor.Sensor
