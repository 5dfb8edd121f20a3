import AirMonitor.BitField
import AirMonitor.Bmp280Api
import AirMonitor.Machine

/-!
The driver's API as a panel of settings. `ctrl_meas` and `config` hold six fields;
every call of the API is one operation on the record of their values and on the
two shadow fields, however its transactions end.
-/

namespace AirMonitor.Settings
open Bytes Bmp280 Sensor Setup Bmp280Api Machine

inductive Setting where
  | oversampTemperature
  | oversampPressure
  | powerMode
  | standbyDurn
  | filter
  | spi3
  deriving DecidableEq

def reg : Setting → UInt8
  | .oversampTemperature => ctrlMeasReg
  | .oversampPressure => ctrlMeasReg
  | .powerMode => ctrlMeasReg
  | .standbyDurn => configReg
  | .filter => configReg
  | .spi3 => configReg

def mask : Setting → UInt8
  | .oversampTemperature => 0xE0
  | .oversampPressure => 0x1C
  | .powerMode => 0x03
  | .standbyDurn => 0xE0
  | .filter => 0x1C
  | .spi3 => 0x01

def pos : Setting → UInt8
  | .oversampTemperature => 5
  | .oversampPressure => 2
  | .powerMode => 0
  | .standbyDurn => 5
  | .filter => 2
  | .spi3 => 0

/-- The bit of `config` that no field covers. -/
def spare : UInt8 := 0x02

/-! The fields of the two registers. -/

theorem mask_above (setting : Setting) (i : Nat) (low : i < (pos setting).toNat) :
    (mask setting).toBitVec.getLsbD i = false := by
  have shifted : (mask setting).toBitVec =
      ((mask setting).toBitVec >>> (pos setting).toNat) <<< (pos setting).toNat := by
    cases setting <;> rfl
  rw [shifted, BitVec.getLsbD_shiftLeft]
  simp [low]

def field (setting : Setting) : BitField.Field 8 :=
  ⟨(mask setting).toBitVec, (pos setting).toNat, mask_above setting⟩

theorem fields_apart (one other : Setting) (same : reg one = reg other) (differ : other ≠ one) :
    BitField.Apart (field one) (field other) := by
  cases one <;> cases other <;> first | rfl | exact absurd rfl differ | exact absurd same (by decide)

/-- What the field keeps of a value. -/
def clip (setting : Setting) (value : UInt8) : UInt8 := value &&& (mask setting >>> pos setting)

def slice (setting : Setting) (word : UInt8) : UInt8 :=
  getBitslice word (mask setting) (pos setting)

def put (setting : Setting) (word value : UInt8) : UInt8 :=
  setBitslice word (mask setting) (pos setting) value

theorem slice_field (setting : Setting) (word : UInt8) :
    (slice setting word).toBitVec = (field setting).get word.toBitVec := by
  cases setting <;> rfl

theorem put_field (setting : Setting) (word value : UInt8) :
    (put setting word value).toBitVec = (field setting).set word.toBitVec value.toBitVec := by
  cases setting <;> rfl

theorem clip_field (setting : Setting) (value : UInt8) :
    (clip setting value).toBitVec = (field setting).clip value.toBitVec := by
  cases setting <;> rfl

theorem slice_put (setting : Setting) (word value : UInt8) :
    slice setting (put setting word value) = clip setting value := by
  apply UInt8.toBitVec_inj.mp
  rw [slice_field, put_field, clip_field, BitField.get_set]

theorem slice_put_other (one other : Setting) (same : reg one = reg other) (differ : other ≠ one)
    (word value : UInt8) : slice other (put one word value) = slice other word := by
  apply UInt8.toBitVec_inj.mp
  rw [slice_field, put_field, slice_field]
  exact BitField.get_set_apart _ _ (fields_apart one other same differ) _ _

theorem put_spare (setting : Setting) (config : reg setting = configReg) (word value : UInt8) :
    put setting word value &&& spare = word &&& spare := by
  apply slice_other
  cases setting <;> first | rfl | exact absurd config (by decide)

/-- A field in numbers: its place and its length. -/
theorem slice_number (setting : Setting) (length : Nat) (small : length ≤ 8)
    (whole : (mask setting).toBitVec >>> (pos setting).toNat = BitVec.ofNat 8 (2 ^ length - 1))
    (word : UInt8) :
    (slice setting word).toNat = word.toNat / 2 ^ (pos setting).toNat % 2 ^ length := by
  rw [← UInt8.toNat_toBitVec, slice_field]
  exact BitField.get_number (field setting) length small whole word.toBitVec

/-- The byte that `bmp280_set_power_mode` puts together. -/
def modeByte (temperature pressure mode : UInt8) : UInt8 :=
  (temperature <<< 5) + (pressure <<< 2) + mode

theorem mode_byte_number (temperature pressure mode : UInt8) (warm : temperature < 8)
    (dense : pressure < 8) (known : mode ≤ normalMode) :
    (modeByte temperature pressure mode).toNat =
      32 * temperature.toNat + 4 * pressure.toNat + mode.toNat := by
  have five : (5 : UInt8).toNat % 8 = 5 := rfl
  have two : (2 : UInt8).toNat % 8 = 2 := rfl
  have one : temperature.toNat < 8 := UInt8.lt_iff_toNat_lt.mp warm
  have other : pressure.toNat < 8 := UInt8.lt_iff_toNat_lt.mp dense
  have last : mode.toNat ≤ 3 := UInt8.le_iff_toNat_le.mp known
  simp only [modeByte, UInt8.toNat_add, UInt8.toNat_shiftLeft, five, two, Nat.shiftLeft_eq]
  omega

/-- Its fields are what it was made of while the shadow fields stay in theirs. -/
theorem mode_byte_slices (temperature pressure mode : UInt8) (warm : temperature < 8)
    (dense : pressure < 8) (known : mode ≤ normalMode) :
    slice .oversampTemperature (modeByte temperature pressure mode) = temperature ∧
      slice .oversampPressure (modeByte temperature pressure mode) = pressure ∧
      slice .powerMode (modeByte temperature pressure mode) = mode := by
  have number := mode_byte_number temperature pressure mode warm dense known
  have one : temperature.toNat < 8 := UInt8.lt_iff_toNat_lt.mp warm
  have other : pressure.toNat < 8 := UInt8.lt_iff_toNat_lt.mp dense
  have last : mode.toNat ≤ 3 := UInt8.le_iff_toNat_le.mp known
  have five : (pos .oversampTemperature).toNat = 5 := rfl
  have two : (pos .oversampPressure).toNat = 2 := rfl
  have zero : (pos .powerMode).toNat = 0 := rfl
  refine ⟨?_, ?_, ?_⟩
  · apply UInt8.toNat_inj.mp
    rw [slice_number .oversampTemperature 3 (by decide) rfl, number, five]
    omega
  · apply UInt8.toNat_inj.mp
    rw [slice_number .oversampPressure 3 (by decide) rfl, number, two]
    omega
  · apply UInt8.toNat_inj.mp
    rw [slice_number .powerMode 2 (by decide) rfl, number, zero]
    omega

/-! The sensor's registers with the soft reset. -/

/-- Power-on contents: both control registers and the data registers. -/
def powerOn (regs : UInt8 → UInt8) (addr : UInt8) : UInt8 :=
  if addr = ctrlMeasReg ∨ addr = configReg then 0
  else if addr = pressureMsbReg ∨ addr = temperatureMsbReg then 0x80
  else if pressureMsbReg ≤ addr ∧ addr < temperatureMsbReg + 3 then 0
  else regs addr

def RegisterFile.write (file : RegisterFile) (regAddr value : UInt8) : RegisterFile :=
  if regAddr = rstReg then
    if value = softResetCode then { file with regs := powerOn file.regs } else file
  else file.put regAddr value

def sensor (fail : Fail) : Bus RegisterFile :=
  { registers fail with
    write := fun file _ regAddr regData =>
      let outcome := file.outcomes 0
      (outcome.ok,
        if outcome.writes then RegisterFile.write file.next regAddr (byteAt regData 0)
        else file.next) }

variable (fail : Fail)

theorem sensor_read (driver : Driver RegisterFile) (regAddr : UInt8) :
    busRead (sensor fail) driver regAddr [0] =
      (if (driver.env.outcomes 0).ok then success else fail.1,
        [(driver.env.outcomes 0).leaves 0 (driver.env.regs regAddr) 0],
        { driver with env := driver.env.next }) := by
  simp [busRead, sensor, registers, byteAt]

theorem sensor_write (driver : Driver RegisterFile) (regAddr value : UInt8) :
    busWrite (sensor fail) driver regAddr [value] =
      (if (driver.env.outcomes 0).ok then success else fail.1,
        { driver with
          env := if (driver.env.outcomes 0).writes then
              RegisterFile.write driver.env.next regAddr value
            else driver.env.next }) := by
  simp [busWrite, sensor, registers, byteAt]

/-! The panel, and what it shows of a register file. -/

/-- The values of the settings, the two shadow fields of the driver and everything
else in the registers, with what is still to come of the sensor. -/
structure Panel where
  settings : Setting → UInt8
  temperature : UInt8
  pressure : UInt8
  others : UInt8 → UInt8
  outcomes : Nat → Outcome
  ignores : Nat → Bool

def settings (regs : UInt8 → UInt8) (setting : Setting) : UInt8 := slice setting (regs (reg setting))

def others (regs : UInt8 → UInt8) (addr : UInt8) : UInt8 :=
  if addr = ctrlMeasReg then 0
  else if addr = configReg then regs addr &&& spare
  else regs addr

def panel (driver : Driver RegisterFile) : Panel where
  settings := settings driver.env.regs
  temperature := driver.bmp280.oversampTemperature
  pressure := driver.bmp280.oversampPressure
  others := others driver.env.regs
  outcomes := driver.env.outcomes
  ignores := driver.env.ignores

/-! The API on the driver and on the panel. -/

inductive Request where
  | get (setting : Setting)
  | set (setting : Setting) (value : UInt8)
  | setWorkMode (mode : UInt8)
  | setSoftRst

section Driver
variable {Env : Type} (bus : Bus Env)

def getter : Setting → UInt8 → Driver Env → Int8 × UInt8 × Driver Env
  | .oversampTemperature => bmp280GetOversampTemperature bus
  | .oversampPressure => bmp280GetOversampPressure bus
  | .powerMode => bmp280GetPowerMode bus
  | .standbyDurn => bmp280GetStandbyDurn bus
  | .filter => bmp280GetFilter bus
  | .spi3 => bmp280GetSpi3 bus

def setter : Setting → UInt8 → Driver Env → Int8 × Driver Env
  | .oversampTemperature => bmp280SetOversampTemperature bus
  | .oversampPressure => bmp280SetOversampPressure bus
  | .powerMode => bmp280SetPowerMode bus
  | .standbyDurn => bmp280SetStandbyDurn bus
  | .filter => bmp280SetFilter bus
  | .spi3 => bmp280SetSpi3 bus

/-- The status of a call and what its getter assigned to a variable that held zero. -/
def serve (driver : Driver Env) : Request → (Int8 × UInt8) × Driver Env
  | .get setting =>
      let got := getter bus setting 0 driver
      ((got.1, got.2.1), got.2.2)
  | .set setting value =>
      let sent := setter bus setting value driver
      ((sent.1, 0), sent.2)
  | .setWorkMode mode =>
      let sent := bmp280SetWorkMode bus mode driver
      ((sent.1, 0), sent.2)
  | .setSoftRst =>
      let sent := bmp280SetSoftRst bus driver
      ((sent.1, 0), sent.2)

end Driver

/-- The work modes from ultra low power to ultra high resolution: oversampling of
temperature and pressure. -/
def workModes : List (UInt8 × UInt8) := [(1, 1), (1, 2), (1, 3), (1, 4), (2, 5)]

namespace Panel

def next (panel : Panel) : Panel := { panel with outcomes := fun i => panel.outcomes (i + 1) }

def status (outcome : Outcome) : Int8 := if outcome.ok then success else fail.1

/-- What a call leaves in the shadow field of its setting, if it has one. -/
def remember (panel : Panel) (setting : Setting) (value : UInt8) : Panel :=
  match setting with
  | .oversampTemperature => { panel with temperature := value }
  | .oversampPressure => { panel with pressure := value }
  | _ => panel

/-- A write of one field. In normal mode the sensor may pass over one of `config`. -/
def turn (panel : Panel) (setting : Setting) (value : UInt8) : Panel :=
  let turned := Function.update panel.settings setting (clip setting value)
  if reg setting = configReg then
    { panel with
      settings := if panel.ignores 0 && panel.settings .powerMode == normalMode then panel.settings
        else turned
      ignores := fun i => panel.ignores (i + 1) }
  else { panel with settings := turned }

def tell (panel : Panel) (setting : Setting) : (Int8 × UInt8) × Panel :=
  let value := match panel.outcomes 0 with
    | .done => panel.settings setting
    -- the field of whatever byte came through, or of the zero before it
    | .failed bytes _ => slice setting ((bytes 0).getD 0)
  ((status fail (panel.outcomes 0), value), panel.next.remember setting value)

/-- The shadow field follows once the register is read, whatever becomes of the write. -/
def adjust (panel : Panel) (setting : Setting) (value : UInt8) : (Int8 × UInt8) × Panel :=
  if (panel.outcomes 0).ok then
    let middle := panel.next
    ((status fail (middle.outcomes 0), 0),
      (if (middle.outcomes 0).writes then middle.next.turn setting value
        else middle.next).remember setting value)
  else ((fail.1, 0), panel.next)

/-- The three fields of `ctrl_meas` at once, the oversampling from the shadow fields. -/
def setPowerMode (panel : Panel) (mode : UInt8) : (Int8 × UInt8) × Panel :=
  if mode ≤ normalMode then
    let turned := Function.update (Function.update (Function.update panel.settings
      .oversampTemperature panel.temperature) .oversampPressure panel.pressure) .powerMode mode
    ((status fail (panel.outcomes 0), 0),
      if (panel.outcomes 0).writes then { panel.next with settings := turned } else panel.next)
  else ((outOfRange, 0), panel)

def setWorkMode (panel : Panel) (mode : UInt8) : (Int8 × UInt8) × Panel :=
  match workModes[mode.toNat]? with
  | some (temperature, pressure) =>
      if (panel.outcomes 0).ok then
        let middle := { panel.next with temperature := temperature, pressure := pressure }
        let turned := Function.update (Function.update panel.settings
          .oversampTemperature temperature) .oversampPressure pressure
        ((status fail (panel.next.outcomes 0), 0),
          if (panel.next.outcomes 0).writes then { middle.next with settings := turned }
          else middle.next)
      else ((fail.1, 0), panel.next)
  | none => ((outOfRange, 0), panel)

def softRst (panel : Panel) : (Int8 × UInt8) × Panel :=
  ((status fail (panel.outcomes 0), 0),
    if (panel.outcomes 0).writes then
      { panel.next with settings := fun _ => 0, others := Settings.others (powerOn panel.others) }
    else panel.next)

def serve (panel : Panel) : Request → (Int8 × UInt8) × Panel
  | .get setting => panel.tell fail setting
  | .set .powerMode value => panel.setPowerMode fail value
  | .set setting value => panel.adjust fail setting value
  | .setWorkMode mode => panel.setWorkMode fail mode
  | .setSoftRst => panel.softRst fail

end Panel

/-! The driver does on the registers what the panel says. -/

theorem settings_put (regs : UInt8 → UInt8) (setting : Setting) (value : UInt8) :
    settings (Function.update regs (reg setting) (put setting (regs (reg setting)) value)) =
      Function.update (settings regs) setting (clip setting value) := by
  funext other
  by_cases same : other = setting
  · subst same
    rw [Function.update_self, settings, Function.update_self, slice_put]
  · rw [Function.update_of_ne same, settings, settings]
    by_cases together : reg setting = reg other
    · rw [← together, Function.update_self, slice_put_other setting other together same]
    · rw [Function.update_of_ne (fun equal => together equal.symm)]

theorem others_put (regs : UInt8 → UInt8) (setting : Setting) (value : UInt8) :
    others (Function.update regs (reg setting) (put setting (regs (reg setting)) value)) =
      others regs := by
  funext addr
  by_cases here : addr = reg setting
  · subst here
    by_cases config : reg setting = configReg
    · have other : reg setting ≠ ctrlMeasReg := by
        rw [config]
        decide
      simp only [others, if_neg other, if_pos config, Function.update_self]
      exact put_spare setting config _ value
    · have ctrl : reg setting = ctrlMeasReg := by
        cases setting <;> first | rfl | exact absurd rfl config
      simp only [others, if_pos ctrl]
  · simp only [others, Function.update_of_ne here]

theorem slice_mode (word : UInt8) : slice .powerMode word = word &&& 0x03 := by
  simp [slice, getBitslice, mask, pos]

theorem write_own (file : RegisterFile) (setting : Setting) (value : UInt8) :
    RegisterFile.write file (reg setting) value = file.put (reg setting) value := by
  have other : reg setting ≠ rstReg := by cases setting <;> decide
  rw [RegisterFile.write, if_neg other]

/-- A write of one field turns one setting, or is passed over. -/
theorem panel_turn (chip : Bmp280T) (attached : Bool) (file : RegisterFile) (setting : Setting)
    (value : UInt8) :
    panel ⟨chip, attached, RegisterFile.write file (reg setting)
        (put setting (file.regs (reg setting)) value)⟩ =
      (panel ⟨chip, attached, file⟩).turn setting value := by
  rw [write_own, RegisterFile.put, Panel.turn]
  by_cases config : reg setting = configReg
  · have mode : (panel ⟨chip, attached, file⟩).settings .powerMode = file.ctrlMeas &&& 0x03 :=
      slice_mode (file.regs ctrlMeasReg)
    rw [if_pos config, if_pos config, mode]
    by_cases passed : (file.ignores 0 && file.ctrlMeas &&& 0x03 == normalMode) = true
    · simp [panel, passed]
    · simp [panel, passed, settings_put, others_put]
  · rw [if_neg config, if_neg config]
    simp [panel, settings_put, others_put]

theorem status_success (outcome : Outcome) :
    (Panel.status fail outcome == success) = outcome.ok := by
  have different : (fail.1 == success) = false := beq_false_of_ne fail.2
  cases outcome with
  | done => rfl
  | failed bytes written => exact different

/-- A call leaves `value` in the shadow field of its setting. -/
def Remembers (setting : Setting) (value : UInt8) (shadow : Bmp280T → Bmp280T) : Prop :=
  ∀ chip attached file,
    panel ⟨shadow chip, attached, file⟩ = (panel ⟨chip, attached, file⟩).remember setting value

theorem get_field_panel (setting : Setting) (shadow : UInt8 → Bmp280T → Bmp280T)
    (remembers : ∀ value, Remembers setting value (shadow value)) (chip : Bmp280T)
    (file : RegisterFile) :
    let got := getField (sensor fail) (reg setting) (mask setting) (pos setting) shadow 0
      ⟨chip, true, file⟩
    ((got.1, got.2.1), panel got.2.2) = (panel ⟨chip, true, file⟩).tell fail setting := by
  let value := slice setting ((file.outcomes 0).leaves 0 (file.regs (reg setting)) 0)
  have shown : (match file.outcomes 0 with
      | .done => settings file.regs setting
      | .failed bytes _ => slice setting ((bytes 0).getD 0)) = value := by
    cases first : file.outcomes 0 <;> simp only [value, first, Outcome.leaves, settings]
  have after := remembers value chip true file.next
  have whole : (panel ⟨chip, true, file⟩).tell fail setting =
      ((Panel.status fail (file.outcomes 0), value),
        (panel ⟨chip, true, file.next⟩).remember setting value) := by
    rw [← shown]
    rfl
  rw [whole, ← after]
  simp only [getField, if_true, sensor_read, byteAt, List.getD_cons_zero]
  rfl

theorem set_field_panel (setting : Setting) (shadow : Bmp280T → Bmp280T) (value : UInt8)
    (remembers : Remembers setting value shadow) (chip : Bmp280T) (file : RegisterFile) :
    let sent := setField (sensor fail) (reg setting) (mask setting) (pos setting) value shadow
      ⟨chip, true, file⟩
    ((sent.1, 0), panel sent.2) = (panel ⟨chip, true, file⟩).adjust fail setting value := by
  have sum (status : Int8) : success + status = status := Int8.zero_add status
  have outcomes : (panel ⟨chip, true, file⟩).outcomes 0 = file.outcomes 0 := rfl
  have later : (panel ⟨chip, true, file⟩).next.outcomes 0 = file.next.outcomes 0 := rfl
  have told := status_success fail (file.outcomes 0)
  rw [Panel.status] at told
  simp only [setField, if_true, sensor_read, Panel.adjust, outcomes, later, told]
  cases file.outcomes 0 with
  | failed bytes written => rfl
  | done =>
      have turned := panel_turn chip true file.next.next setting value
      simp only [Outcome.ok, Outcome.leaves, if_true, sensor_write, sum, byteAt, List.getD_cons_zero]
      by_cases writes : (file.next.outcomes 0).writes = true
      · rw [if_pos writes, if_pos writes, remembers chip true]
        exact congrArg (fun panel => ((_, (0 : UInt8)), Panel.remember panel setting value)) turned
      · rw [if_neg writes, if_neg writes, remembers chip true]
        rfl

/-- Both shadow fields fit the fields of the register. -/
def Small (chip : Bmp280T) : Prop := chip.oversampTemperature < 8 ∧ chip.oversampPressure < 8

theorem settings_mode (regs : UInt8 → UInt8) (temperature pressure mode : UInt8)
    (warm : temperature < 8) (dense : pressure < 8) (known : mode ≤ normalMode) :
    settings (Function.update regs ctrlMeasReg (modeByte temperature pressure mode)) =
      Function.update (Function.update (Function.update (settings regs)
        .oversampTemperature temperature) .oversampPressure pressure) .powerMode mode := by
  obtain ⟨one, other, last⟩ := mode_byte_slices temperature pressure mode warm dense known
  have apart : configReg ≠ ctrlMeasReg := by decide
  funext setting
  cases setting <;> simp [settings, reg, one, other, last, apart]

theorem others_ctrl (regs : UInt8 → UInt8) (value : UInt8) :
    others (Function.update regs ctrlMeasReg value) = others regs := by
  funext addr
  by_cases here : addr = ctrlMeasReg
  · simp only [others, if_pos here]
  · simp only [others, Function.update_of_ne here]

theorem write_ctrl (file : RegisterFile) (value : UInt8) :
    RegisterFile.write file ctrlMeasReg value =
      { file with regs := Function.update file.regs ctrlMeasReg value } := by
  have other : ctrlMeasReg ≠ rstReg := by decide
  have apart : ctrlMeasReg ≠ configReg := by decide
  rw [RegisterFile.write, if_neg other, RegisterFile.put, if_neg apart]

theorem set_power_mode_panel (mode : UInt8) (chip : Bmp280T) (file : RegisterFile)
    (small : Small chip) :
    let sent := bmp280SetPowerMode (sensor fail) mode ⟨chip, true, file⟩
    ((sent.1, 0), panel sent.2) = (panel ⟨chip, true, file⟩).setPowerMode fail mode := by
  dsimp only
  rw [Panel.setPowerMode]
  by_cases known : mode ≤ normalMode
  · simp only [bmp280SetPowerMode, if_true, if_pos known, sensor_write]
    have turned := settings_mode file.regs chip.oversampTemperature chip.oversampPressure mode
      small.1 small.2 known
    have outcomes : (panel ⟨chip, true, file⟩).outcomes 0 = file.outcomes 0 := rfl
    rw [outcomes]
    by_cases writes : (file.outcomes 0).writes = true
    · simp only [writes, if_true, write_ctrl, panel, RegisterFile.next]
      rw [← modeByte, turned, others_ctrl]
      rfl
    · rw [if_neg writes, if_neg writes]
      rfl
  · simp only [bmp280SetPowerMode, if_true, if_neg known]

theorem work_mode_cases (mode : UInt8) (known : mode ≤ ultraHighResolutionMode) :
    mode = 0 ∨ mode = 1 ∨ mode = 2 ∨ mode = 3 ∨ mode = 4 := by
  have bound : mode.toNat ≤ 4 := UInt8.le_iff_toNat_le.mp known
  simp only [← UInt8.toNat_inj, UInt8.reduceToNat]
  omega

/-- In range the `switch` assigns both shadow fields, the values of the table. -/
theorem work_mode_values (mode : UInt8) (known : mode ≤ ultraHighResolutionMode) :
    ∃ temperature pressure, workModes[mode.toNat]? = some (temperature, pressure) ∧
      temperature < 8 ∧ pressure < 8 ∧
      ∀ chip, (workMode mode chip).oversampTemperature = temperature ∧
        (workMode mode chip).oversampPressure = pressure := by
  rcases work_mode_cases mode known with rfl | rfl | rfl | rfl | rfl <;>
    exact ⟨_, _, rfl, by decide, by decide, fun _ => ⟨rfl, rfl⟩⟩

theorem work_mode_unknown (mode : UInt8) (unknown : ¬ mode ≤ ultraHighResolutionMode) :
    workModes[mode.toNat]? = none := by
  apply List.getElem?_eq_none
  have beyond : ¬ mode.toNat ≤ 4 := fun small => unknown (UInt8.le_iff_toNat_le.mpr small)
  simp only [workModes, List.length_cons, List.length_nil]
  omega

theorem clip_small (setting : Setting) (ctrl : setting = .oversampTemperature ∨
    setting = .oversampPressure) (value : UInt8) (small : value < 8) : clip setting value = value := by
  have whole : mask setting >>> pos setting = 7 := by rcases ctrl with rfl | rfl <;> rfl
  have bound : value.toNat < 8 := UInt8.lt_iff_toNat_lt.mp small
  have seven : (7 : UInt8).toNat = 2 ^ 3 - 1 := rfl
  apply UInt8.toNat_inj.mp
  rw [clip, whole, UInt8.toNat_and, seven, Nat.and_two_pow_sub_one_eq_mod]
  omega

/-- Two fields of `ctrl_meas` in one write. -/
theorem settings_work (regs : UInt8 → UInt8) (temperature pressure : UInt8)
    (warm : temperature < 8) (dense : pressure < 8) :
    settings (Function.update regs ctrlMeasReg (put .oversampPressure
        (put .oversampTemperature (regs ctrlMeasReg) temperature) pressure)) =
      Function.update (Function.update (settings regs) .oversampTemperature temperature)
        .oversampPressure pressure := by
  have first := settings_put regs .oversampTemperature temperature
  have second := settings_put (Function.update regs ctrlMeasReg
    (put .oversampTemperature (regs ctrlMeasReg) temperature)) .oversampPressure pressure
  rw [clip_small _ (.inl rfl) _ warm] at first
  rw [clip_small _ (.inr rfl) _ dense] at second
  simp only [reg, Function.update_self, Function.update_idem] at first second
  rw [second, first]

theorem set_work_mode_panel (mode : UInt8) (chip : Bmp280T) (file : RegisterFile) :
    let sent := bmp280SetWorkMode (sensor fail) mode ⟨chip, true, file⟩
    ((sent.1, 0), panel sent.2) = (panel ⟨chip, true, file⟩).setWorkMode fail mode := by
  have sum (status : Int8) : success + status = status := Int8.zero_add status
  have outcomes : (panel ⟨chip, true, file⟩).outcomes 0 = file.outcomes 0 := rfl
  have later : (panel ⟨chip, true, file⟩).next.outcomes 0 = file.next.outcomes 0 := rfl
  have told := status_success fail (file.outcomes 0)
  rw [Panel.status] at told
  dsimp only
  rw [Panel.setWorkMode]
  by_cases known : mode ≤ ultraHighResolutionMode
  · obtain ⟨temperature, pressure, listed, warm, dense, chosen⟩ := work_mode_values mode known
    obtain ⟨one, other⟩ := chosen chip
    simp only [bmp280SetWorkMode, if_true, if_pos known, listed, sensor_read, outcomes, later, told]
    cases file.outcomes 0 with
    | failed bytes written => rfl
    | done =>
        have turned := settings_work file.regs _ _ warm dense
        simp only [Outcome.ok, Outcome.leaves, if_true, sensor_write, sum, write_ctrl, one, other,
          byteAt, List.getD_cons_zero]
        by_cases writes : (file.next.outcomes 0).writes = true
        · simp only [writes, if_true, panel, one, other]
          rw [others_ctrl]
          exact congrArg (fun settings => ((_, (0 : UInt8)), (⟨settings, temperature, pressure,
            others file.regs, file.next.next.outcomes, file.ignores⟩ : Panel))) turned
        · rw [if_neg writes, if_neg writes, panel, one, other]
          rfl
  · simp only [bmp280SetWorkMode, if_true, if_neg known, work_mode_unknown mode known]

theorem power_on_panel (regs : UInt8 → UInt8) :
    settings (powerOn regs) = (fun _ => 0) ∧
      others (powerOn regs) = others (powerOn (others regs)) := by
  constructor
  · funext setting
    have zero : powerOn regs (reg setting) = 0 := by cases setting <;> simp [powerOn, reg]
    rw [settings, zero]
    cases setting <;> rfl
  · funext addr
    by_cases ctrl : addr = ctrlMeasReg
    · simp [others, ctrl]
    · by_cases config : addr = configReg
      · simp [others, powerOn, config]
      · simp [others, powerOn, ctrl, config]

theorem set_soft_rst_panel (chip : Bmp280T) (file : RegisterFile) :
    let sent := bmp280SetSoftRst (sensor fail) ⟨chip, true, file⟩
    ((sent.1, 0), panel sent.2) = (panel ⟨chip, true, file⟩).softRst fail := by
  obtain ⟨zero, rest⟩ := power_on_panel file.regs
  have outcomes : (panel ⟨chip, true, file⟩).outcomes 0 = file.outcomes 0 := rfl
  simp only [bmp280SetSoftRst, if_true, sensor_write, Panel.softRst, outcomes]
  by_cases writes : (file.outcomes 0).writes = true
  · simp only [writes, if_true, RegisterFile.write, panel, RegisterFile.next]
    rw [zero, rest]
    rfl
  · rw [if_neg writes, if_neg writes]
    rfl

/-! Whole runs. -/

/-- Oversampling values are those of three bits; the setters themselves take any. -/
def Documented : Request → Prop
  | .set .oversampTemperature value => value < 8
  | .set .oversampPressure value => value < 8
  | _ => True

/-- The state in which `bmp280_set_power_mode` writes the shadow fields as they are. -/
def Ready (driver : Driver RegisterFile) : Prop := driver.attached = true ∧ Small driver.bmp280

/-- The shadow field of a setting, if it has one. -/
def shadow (setting : Setting) (value : UInt8) (chip : Bmp280T) : Bmp280T :=
  match setting with
  | .oversampTemperature => { chip with oversampTemperature := value }
  | .oversampPressure => { chip with oversampPressure := value }
  | _ => chip

theorem shadow_remembers (setting : Setting) (value : UInt8) :
    Remembers setting value (shadow setting value) := by
  intro chip attached file
  cases setting <;> rfl

theorem getter_field {Env : Type} (bus : Bus Env) (setting : Setting) :
    getter bus setting = getField bus (reg setting) (mask setting) (pos setting) (shadow setting) := by
  cases setting <;> rfl

theorem setter_field {Env : Type} (bus : Bus Env) (setting : Setting) (value : UInt8)
    (other : setting ≠ .powerMode) :
    setter bus setting value =
      setField bus (reg setting) (mask setting) (pos setting) value (shadow setting value) := by
  cases setting with
  | powerMode => exact absurd rfl other
  | oversampTemperature | oversampPressure | standbyDurn | filter | spi3 => rfl

theorem serve_refines (driver : Driver RegisterFile) (ready : Ready driver) (request : Request) :
    ((serve (sensor fail) driver request).1, panel (serve (sensor fail) driver request).2) =
      (panel driver).serve fail request := by
  obtain ⟨chip, attached, file⟩ := driver
  obtain ⟨on, small⟩ := ready
  obtain rfl : attached = true := on
  cases request with
  | get setting =>
      rw [serve, getter_field]
      exact get_field_panel fail setting _ (shadow_remembers setting) chip file
  | set setting value =>
      by_cases mode : setting = .powerMode
      · subst mode
        exact set_power_mode_panel fail value chip file small
      · have same : (panel ⟨chip, true, file⟩).serve fail (.set setting value) =
            (panel ⟨chip, true, file⟩).adjust fail setting value := by
          cases setting with
          | powerMode => exact absurd rfl mode
          | oversampTemperature | oversampPressure | standbyDurn | filter | spi3 => rfl
        rw [serve, setter_field _ setting value mode, same]
        exact set_field_panel fail setting _ value (shadow_remembers setting value) chip file
  | setWorkMode mode => exact set_work_mode_panel fail mode chip file
  | setSoftRst => exact set_soft_rst_panel fail chip file

theorem slice_small (setting : Setting) (word : UInt8) : slice setting word < 8 := by
  have bound : ((mask setting).toBitVec >>> (pos setting).toNat).toNat ≤ 7 := by
    cases setting <;> decide
  apply UInt8.lt_iff_toNat_lt.mpr
  rw [← UInt8.toNat_toBitVec, slice_field, BitField.Field.get, BitVec.ushiftRight_and_distrib,
    BitVec.toNat_and]
  exact Nat.lt_of_le_of_lt (Nat.le_trans Nat.and_le_right bound) (by decide)

theorem shadow_small (setting : Setting) (value : UInt8) (chip : Bmp280T) (small : Small chip)
    (fits : setting = .oversampTemperature ∨ setting = .oversampPressure → value < 8) :
    Small (shadow setting value chip) := by
  cases setting with
  | oversampTemperature => exact ⟨fits (.inl rfl), small.2⟩
  | oversampPressure => exact ⟨small.1, fits (.inr rfl)⟩
  | powerMode | standbyDurn | filter | spi3 => exact small

theorem set_field_ready (reg mask pos value : UInt8) (shadow : Bmp280T → Bmp280T)
    (driver : Driver RegisterFile) (ready : Ready driver)
    (small : Small (shadow driver.bmp280)) :
    Ready (setField (sensor fail) reg mask pos value shadow driver).2 := by
  obtain ⟨attached, before⟩ := ready
  unfold setField
  rw [if_pos attached]
  dsimp only
  split
  · exact ⟨attached, small⟩
  · exact ⟨attached, before⟩

theorem set_work_mode_ready (mode : UInt8) (driver : Driver RegisterFile) (ready : Ready driver) :
    Ready (bmp280SetWorkMode (sensor fail) mode driver).2 := by
  obtain ⟨attached, before⟩ := ready
  unfold bmp280SetWorkMode
  rw [if_pos attached]
  by_cases known : mode ≤ ultraHighResolutionMode
  · obtain ⟨temperature, pressure, _, warm, dense, chosen⟩ := work_mode_values mode known
    obtain ⟨one, other⟩ := chosen driver.bmp280
    rw [if_pos known]
    dsimp only
    split
    · refine ⟨attached, ?_⟩
      rw [← one] at warm
      rw [← other] at dense
      exact ⟨warm, dense⟩
    · exact ⟨attached, before⟩
  · rw [if_neg known]
    exact ⟨attached, before⟩

theorem serve_ready (driver : Driver RegisterFile) (request : Request) (ready : Ready driver)
    (documented : Documented request) : Ready (serve (sensor fail) driver request).2 := by
  obtain ⟨attached, small⟩ := ready
  cases request with
  | get setting =>
      rw [serve, getter_field]
      simp only [getField, if_pos attached]
      exact ⟨attached, shadow_small setting _ _ small fun _ => slice_small setting _⟩
  | set setting value =>
      by_cases mode : setting = .powerMode
      · subst mode
        have keeps := DriverFrame.set_power_mode_keeps (sensor fail) value driver
        refine ⟨keeps.attached.trans attached, ?_⟩
        simp only [serve, setter, bmp280SetPowerMode, if_pos attached]
        split <;> exact small
      · rw [serve, setter_field _ setting value mode]
        apply set_field_ready fail _ _ _ _ _ driver ⟨attached, small⟩
        apply shadow_small setting value driver.bmp280 small
        rintro (rfl | rfl)
        · exact documented
        · exact documented
  | setWorkMode mode => exact set_work_mode_ready fail mode driver ⟨attached, small⟩
  | setSoftRst =>
      have keeps := DriverFrame.set_soft_rst_keeps (sensor fail) driver
      refine ⟨keeps.attached.trans attached, ?_⟩
      simp only [serve, bmp280SetSoftRst, if_pos attached]
      exact small

/-- Every second transaction fails, every fourth with a byte of its own and its write
carried out, in a sensor that passes over every write it may. -/
def flaky : Driver RegisterFile :=
  ⟨Bmp280T.zero, true, ⟨fun _ => 0, fun i =>
    if i % 2 = 0 then .done
    else if i % 4 = 1 then .failed (fun _ => some 0xFF) true
    else .failed (fun _ => none) false, fun _ => true⟩⟩

end AirMonitor.Settings
