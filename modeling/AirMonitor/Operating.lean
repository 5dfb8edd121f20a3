import AirMonitor.AppMain
import AirMonitor.BusLink
import AirMonitor.Settings

/-!
The sensor's settings over whole runs. However the commands on the bus fare, every
field of the control registers holds what the power-on left in it or what
`pressure_setup` asks for, and a setup that logs nothing holds until the next one.
-/

namespace AirMonitor.Operating
open Bytes Bmp280 Pressure DriverFrame Sensor Settings AppMain I2c BusLink

structure Control where
  ctrlMeas : UInt8
  config : UInt8

def Control.byte (control : Control) (setting : Setting) : UInt8 :=
  if reg setting = ctrlMeasReg then control.ctrlMeas else control.config

def Control.value (control : Control) (setting : Setting) : UInt8 :=
  slice setting (control.byte setting)

/-- One field written. -/
def Control.turn (control : Control) (setting : Setting) (value : UInt8) : Control :=
  if reg setting = ctrlMeasReg then { control with ctrlMeas := put setting control.ctrlMeas value }
  else { control with config := put setting control.config value }

/-- What `pressure_setup` asks for. It never touches `spi3`. -/
def wanted : Setting → UInt8
  | .oversampTemperature => ultraHighResolutionOversampTemperature
  | .oversampPressure => ultraHighResolutionOversampPressure
  | .powerMode => normalMode
  | .standbyDurn => standbyTime1Ms
  | .filter => filterCoeff16
  | .spi3 => 0

theorem wanted_clip (setting : Setting) : clip setting (wanted setting) = wanted setting := by
  cases setting <;> rfl

theorem byte_turn (control : Control) (setting other : Setting) (value : UInt8) :
    (control.turn setting value).byte other =
      if reg other = reg setting then put setting (control.byte other) value
      else control.byte other := by
  cases setting <;> cases other <;> rfl

theorem value_turn (control : Control) (setting other : Setting) (value : UInt8) :
    (control.turn setting value).value other =
      if other = setting then clip setting value else control.value other := by
  rw [Control.value, byte_turn]
  by_cases same : other = setting
  · rw [if_pos same, same, if_pos rfl]
    exact slice_put setting _ value
  · rw [if_neg same]
    split
    · rename_i together
      exact slice_put_other setting other together.symm same _ value
    · rfl

/-- The control registers after a write of one byte. In normal mode the sensor may
pass over a write to `config`. -/
def Writes (control : Control) (regAddr value : UInt8) (after : Control) : Prop :=
  if regAddr = ctrlMeasReg then after = { control with ctrlMeas := value }
  else if regAddr = configReg then
    after = { control with config := value } ∨
      after = control ∧ control.value .powerMode = normalMode
  else if regAddr = rstReg ∧ value = softResetCode then after = ⟨0, 0⟩
  else after = control

/-- In forced mode the sensor puts itself back to sleep. -/
def Forced (control : Control) : Prop :=
  control.value .powerMode ≠ 0 ∧ control.value .powerMode ≠ normalMode

/-- Every field as after power-on or as asked for, and the shadow fields too. -/
structure Within (control : Control) (chip : Bmp280T) : Prop where
  values : ∀ setting, control.value setting = 0 ∨ control.value setting = wanted setting
  temperature : chip.oversampTemperature = 0 ∨ chip.oversampTemperature = wanted .oversampTemperature
  pressure : chip.oversampPressure = 0 ∨ chip.oversampPressure = wanted .oversampPressure

theorem within_awake (control : Control) (chip : Bmp280T) (inside : Within control chip) :
    ¬ Forced control := by
  rintro ⟨up, other⟩
  rcases inside.values .powerMode with rest | normal
  · exact up rest
  · exact other normal

/-- Settings as asked for, with their shadow fields. -/
structure Tuned (settings : List Setting) (control : Control) (chip : Bmp280T) : Prop where
  values : ∀ setting ∈ settings, control.value setting = wanted setting
  temperature : .oversampTemperature ∈ settings →
    chip.oversampTemperature = wanted .oversampTemperature
  pressure : .oversampPressure ∈ settings → chip.oversampPressure = wanted .oversampPressure

theorem tuned_nothing (control : Control) (chip : Bmp280T) : Tuned [] control chip :=
  ⟨fun _ none => absurd none List.not_mem_nil, fun none => absurd none List.not_mem_nil,
    fun none => absurd none List.not_mem_nil⟩

theorem still_wanted (old new asked : UInt8) (step : new = old ∨ new = asked)
    (held : old = 0 ∨ old = asked) : new = 0 ∨ new = asked := by
  cases step with
  | inl kept =>
      rw [kept]
      exact held
  | inr set => exact .inr set

theorem turn_values (control : Control) (setting other : Setting)
    (held : control.value other = 0 ∨ control.value other = wanted other) :
    (control.turn setting (wanted setting)).value other = 0 ∨
      (control.turn setting (wanted setting)).value other = wanted other := by
  rw [value_turn]
  by_cases same : other = setting
  · rw [if_pos same, wanted_clip, same]
    exact .inr rfl
  · rw [if_neg same]
    exact held

theorem turn_tuned (settings : List Setting) (control : Control) (chip after : Bmp280T)
    (setting : Setting) (tuned : Tuned settings control chip)
    (temperature : after.oversampTemperature = chip.oversampTemperature ∨
      after.oversampTemperature = wanted .oversampTemperature)
    (pressure : after.oversampPressure = chip.oversampPressure ∨
      after.oversampPressure = wanted .oversampPressure) :
    Tuned settings (control.turn setting (wanted setting)) after := by
  constructor
  · intro other member
    rw [value_turn]
    by_cases same : other = setting
    · rw [if_pos same, wanted_clip, same]
    · rw [if_neg same]
      exact tuned.values other member
  · intro member
    rcases temperature with kept | set
    · exact kept.trans (tuned.temperature member)
    · exact set
  · intro member
    rcases pressure with kept | set
    · exact kept.trans (tuned.pressure member)
    · exact set

/-! The driver's calls, on any bus that shows the sensor's registers as they are. -/

/-- What a transaction with the sensor's address may do and tell. -/
structure Honest {Env : Type} (bus : Bus Env) (control : Env → Control) : Prop where
  kept : ∀ env regAddr buffer, 0 < buffer.length → buffer.length < 256 → ¬ Forced (control env) →
    control (bus.read env i2cAddress1 regAddr buffer).2.2 = control env
  told : ∀ env setting byte, ¬ Forced (control env) →
    (bus.read env i2cAddress1 (reg setting) [byte]).1 = true →
    (bus.read env i2cAddress1 (reg setting) [byte]).2.1 = [(control env).byte setting]
  written : ∀ env regAddr value, ¬ Forced (control env) →
    (bus.write env i2cAddress1 regAddr [value]).1 = true →
    Writes (control env) regAddr value (control (bus.write env i2cAddress1 regAddr [value]).2)
  either : ∀ env regAddr value, ¬ Forced (control env) →
    control (bus.write env i2cAddress1 regAddr [value]).2 = control env ∨
      Writes (control env) regAddr value (control (bus.write env i2cAddress1 regAddr [value]).2)

section Calls
variable {Env : Type} (bus : Bus Env) (control : Env → Control) (honest : Honest bus control)

/-- The driver talks to the sensor, whose fields are as they may be. -/
structure Fit (driver : Driver Env) : Prop where
  addressed : driver.bmp280.devAddr = i2cAddress1
  inside : Within (control driver.env) driver.bmp280

theorem fit_awake (driver : Driver Env) (fit : Fit control driver) :
    ¬ Forced (control driver.env) := within_awake _ _ fit.inside

include honest in
theorem read_kept (driver : Driver Env) (fit : Fit control driver) (regAddr : UInt8)
    (buffer : List UInt8) (some : 0 < buffer.length) (small : buffer.length < 256) :
    (busRead bus driver regAddr buffer).2.2.bmp280 = driver.bmp280 ∧
      control (busRead bus driver regAddr buffer).2.2.env = control driver.env := by
  refine ⟨rfl, ?_⟩
  rw [busRead, fit.addressed]
  exact honest.kept driver.env regAddr buffer some small (fit_awake control driver fit)

include honest in
theorem read_told (driver : Driver Env) (fit : Fit control driver) (setting : Setting)
    (quiet : (busRead bus driver (reg setting) [0]).1 = success) :
    (busRead bus driver (reg setting) [0]).2.1 = [(control driver.env).byte setting] := by
  simp only [busRead, fit.addressed] at quiet ⊢
  by_cases ok : (bus.read driver.env i2cAddress1 (reg setting) [0]).1 = true
  · exact honest.told driver.env setting 0 (fit_awake control driver fit) ok
  · rw [if_neg ok] at quiet
    exact absurd quiet bus.failNonzero

/-- A write that is reported, and one that is not. -/
structure Wrote (driver : Driver Env) (regAddr value : UInt8) (done : Int8 × Driver Env) : Prop where
  chip : done.2.bmp280 = driver.bmp280
  attached : done.2.attached = driver.attached
  quiet : done.1 = success → Writes (control driver.env) regAddr value (control done.2.env)
  either : control done.2.env = control driver.env ∨
    Writes (control driver.env) regAddr value (control done.2.env)

include honest in
theorem write_wrote (driver : Driver Env) (fit : Fit control driver) (regAddr value : UInt8) :
    Wrote control driver regAddr value (busWrite bus driver regAddr [value]) := by
  have awake := fit_awake control driver fit
  constructor
  · rfl
  · rfl
  · intro quiet
    simp only [busWrite, fit.addressed] at quiet ⊢
    by_cases ok : (bus.write driver.env i2cAddress1 regAddr [value]).1 = true
    · exact honest.written driver.env regAddr value awake ok
    · rw [if_neg ok] at quiet
      exact absurd quiet bus.failNonzero
  · simp only [busWrite, fit.addressed]
    exact honest.either driver.env regAddr value awake

theorem writes_field (before after : Control) (setting : Setting) (value : UInt8)
    (writes : Writes before (reg setting) (put setting (before.byte setting) value) after) :
    after = before.turn setting value ∨ after = before ∧ reg setting = configReg := by
  cases setting with
  | oversampTemperature | oversampPressure | powerMode => exact .inl writes
  | standbyDurn | filter | spi3 =>
      rcases writes with taken | ⟨passed, _⟩
      · exact .inl taken
      · exact .inr ⟨passed, rfl⟩

/-- A call of a setter. -/
structure Set (driver : Driver Env) (setting : Setting) (value : UInt8) (shadow : Bmp280T → Bmp280T)
    (done : Int8 × Driver Env) : Prop where
  attached : done.2.attached = driver.attached
  chip : done.2.bmp280 = driver.bmp280 ∨ done.2.bmp280 = shadow driver.bmp280
  either : control done.2.env = control driver.env ∨
    control done.2.env = (control driver.env).turn setting value
  quietChip : done.1 = success → done.2.bmp280 = shadow driver.bmp280
  quiet : done.1 = success → control done.2.env = (control driver.env).turn setting value ∨
    control done.2.env = control driver.env ∧ reg setting = configReg

include honest in
theorem set_field_set (driver : Driver Env) (fit : Fit control driver)
    (attached : driver.attached = true) (setting : Setting) (value : UInt8)
    (shadow : Bmp280T → Bmp280T) :
    Set control driver setting value shadow
      (setField bus (reg setting) (mask setting) (pos setting) value shadow driver) := by
  have kept := read_kept bus control honest driver fit (reg setting) [0] (by simp) (by simp)
  have told := read_told bus control honest driver fit setting
  have stays : (busRead bus driver (reg setting) [0]).2.2.attached = driver.attached := rfl
  simp only [setField, attached, if_true]
  generalize busRead bus driver (reg setting) [0] = got at *
  by_cases quiet : got.1 = success
  · have fits : Fit control got.2.2 := by
      refine ⟨?_, ?_⟩
      · rw [kept.1]
        exact fit.addressed
      · rw [kept.1, kept.2]
        exact fit.inside
    have byte : byteAt got.2.1 0 = (control got.2.2.env).byte setting := by
      rw [told quiet, kept.2]
      rfl
    have wrote := write_wrote bus control honest got.2.2 fits (reg setting)
      (setBitslice (byteAt got.2.1 0) (mask setting) (pos setting) value)
    rw [byte] at wrote
    simp only [quiet, BEq.rfl, if_true, byte]
    generalize busWrite bus got.2.2 (reg setting)
      [setBitslice ((control got.2.2.env).byte setting) (mask setting) (pos setting) value] = sent at *
    have zero : success + sent.1 = sent.1 := Int8.zero_add _
    constructor
    · exact wrote.attached.trans stays
    · exact .inr (congrArg shadow (wrote.chip.trans kept.1))
    · rcases wrote.either with same | writes
      · exact .inl (same.trans kept.2)
      · rw [← kept.2]
        rcases writes_field _ _ setting value writes with turned | ⟨same, _⟩
        · exact .inr turned
        · exact .inl same
    · exact fun _ => congrArg shadow (wrote.chip.trans kept.1)
    · intro done
      rw [← kept.2]
      exact writes_field _ _ setting value (wrote.quiet (zero.symm.trans done))
  · have off : (got.1 == success) = false := by simpa using quiet
    simp only [off]
    exact ⟨stays, .inl kept.1, .inl kept.2, fun done => absurd done quiet,
      fun done => absurd done quiet⟩

/-- What a setter may remember of a value: nothing, or in its own shadow field. -/
structure Remembers (setting : Setting) (shadow : Bmp280T → Bmp280T) : Prop where
  addressed : ∀ chip, (shadow chip).devAddr = chip.devAddr
  temperature : ∀ chip, (shadow chip).oversampTemperature =
    if setting = .oversampTemperature then wanted setting else chip.oversampTemperature
  pressure : ∀ chip, (shadow chip).oversampPressure =
    if setting = .oversampPressure then wanted setting else chip.oversampPressure

theorem remembers_cases (setting : Setting) (shadow : Bmp280T → Bmp280T)
    (remembers : Remembers setting shadow) (chip : Bmp280T) :
    ((shadow chip).oversampTemperature = chip.oversampTemperature ∨
        (shadow chip).oversampTemperature = wanted .oversampTemperature) ∧
      ((shadow chip).oversampPressure = chip.oversampPressure ∨
        (shadow chip).oversampPressure = wanted .oversampPressure) := by
  rw [remembers.temperature, remembers.pressure]
  constructor
  · split
    · rename_i same
      exact .inr (congrArg wanted same)
    · exact .inl rfl
  · split
    · rename_i same
      exact .inr (congrArg wanted same)
    · exact .inl rfl

/-- A call that leaves the driver as it must be, and if it reports success the
settings given too. -/
structure Keeps (driver : Driver Env) (before after : List Setting) (done : Int8 × Driver Env) :
    Prop where
  attached : done.2.attached = true
  fit : Fit control done.2
  tuned : done.1 = success → Tuned before (control driver.env) driver.bmp280 →
    Tuned after (control done.2.env) done.2.bmp280

theorem set_keeps (driver : Driver Env) (fit : Fit control driver)
    (attached : driver.attached = true) (setting : Setting) (shadow : Bmp280T → Bmp280T)
    (remembers : Remembers setting shadow) (done : Int8 × Driver Env)
    (set : Set control driver setting (wanted setting) shadow done) (before : List Setting) :
    Keeps control driver before (if reg setting = configReg then before else setting :: before)
      done := by
  obtain ⟨temperature, pressure⟩ := remembers_cases setting shadow remembers driver.bmp280
  have chips : done.2.bmp280.devAddr = i2cAddress1 ∧
      (done.2.bmp280.oversampTemperature = driver.bmp280.oversampTemperature ∨
        done.2.bmp280.oversampTemperature = wanted .oversampTemperature) ∧
      (done.2.bmp280.oversampPressure = driver.bmp280.oversampPressure ∨
        done.2.bmp280.oversampPressure = wanted .oversampPressure) := by
    cases set.chip with
    | inl same =>
        rw [same]
        exact ⟨fit.addressed, .inl rfl, .inl rfl⟩
    | inr remembered =>
        rw [remembered, remembers.addressed]
        exact ⟨fit.addressed, temperature, pressure⟩
  constructor
  · exact set.attached.trans attached
  · constructor
    · exact chips.1
    · constructor
      · intro other
        cases set.either with
        | inl same =>
            rw [same]
            exact fit.inside.values other
        | inr turned =>
            rw [turned]
            exact turn_values _ setting other (fit.inside.values other)
      · exact still_wanted _ _ _ chips.2.1 fit.inside.temperature
      · exact still_wanted _ _ _ chips.2.2 fit.inside.pressure
  · intro quiet tuned
    rw [set.quietChip quiet]
    have turned := turn_tuned before _ driver.bmp280 (shadow driver.bmp280) setting tuned
      temperature pressure
    rcases set.quiet quiet with control | ⟨same, config⟩
    · rw [control]
      split
      · exact turned
      · constructor
        · intro other member
          rcases List.mem_cons.mp member with rfl | old
          · rw [value_turn, if_pos rfl, wanted_clip]
          · exact turned.values other old
        · intro member
          rcases List.mem_cons.mp member with rfl | old
          · rw [remembers.temperature, if_pos rfl]
          · exact turned.temperature old
        · intro member
          rcases List.mem_cons.mp member with rfl | old
          · rw [remembers.pressure, if_pos rfl]
          · exact turned.pressure old
    · rw [same, if_pos config]
      exact ⟨tuned.values, fun member => temperature.elim (·.trans (tuned.temperature member)) id,
        fun member => pressure.elim (·.trans (tuned.pressure member)) id⟩

theorem small_wanted (value asked : UInt8) (fits : asked < 8) (held : value = 0 ∨ value = asked) :
    value < 8 := by
  cases held with
  | inl rest =>
      rw [rest]
      decide
  | inr set =>
      rw [set]
      exact fits

theorem within_small (at_rest : Control) (chip : Bmp280T) (inside : Within at_rest chip) :
    chip.oversampTemperature < 8 ∧ chip.oversampPressure < 8 :=
  ⟨small_wanted _ _ (by decide) inside.temperature, small_wanted _ _ (by decide) inside.pressure⟩

/-- The mode is written with the oversampling of the shadow fields. -/
theorem mode_values (before : Control) (chip : Bmp280T) (inside : Within before chip) :
    let after : Control := { before with
      ctrlMeas := modeByte chip.oversampTemperature chip.oversampPressure normalMode }
    Within after chip ∧ after.value .powerMode = normalMode := by
  intro after
  obtain ⟨warm, dense⟩ := within_small before chip inside
  obtain ⟨temperature, pressure, mode⟩ := mode_byte_slices chip.oversampTemperature
    chip.oversampPressure normalMode warm dense (UInt8.le_refl _)
  refine ⟨⟨?_, inside.temperature, inside.pressure⟩, mode⟩
  intro setting
  cases setting with
  | oversampTemperature =>
      have same : after.value .oversampTemperature = chip.oversampTemperature := temperature
      rw [same]
      exact inside.temperature
  | oversampPressure =>
      have same : after.value .oversampPressure = chip.oversampPressure := pressure
      rw [same]
      exact inside.pressure
  | powerMode => exact .inr mode
  | standbyDurn => exact inside.values .standbyDurn
  | filter => exact inside.values .filter
  | spi3 => exact inside.values .spi3

include honest in
theorem power_mode_keeps (driver : Driver Env) (fit : Fit control driver)
    (attached : driver.attached = true) :
    Keeps control driver [] [.powerMode] (bmp280SetPowerMode bus normalMode driver) := by
  obtain ⟨inside, mode⟩ := mode_values (control driver.env) driver.bmp280 fit.inside
  have wrote := write_wrote bus control honest driver fit ctrlMeasReg
    (modeByte driver.bmp280.oversampTemperature driver.bmp280.oversampPressure normalMode)
  have call : bmp280SetPowerMode bus normalMode driver = busWrite bus driver ctrlMeasReg
      [modeByte driver.bmp280.oversampTemperature driver.bmp280.oversampPressure normalMode] := by
    rw [bmp280SetPowerMode, if_pos attached, if_pos (UInt8.le_refl _)]
    rfl
  rw [call]
  generalize busWrite bus driver ctrlMeasReg
    [modeByte driver.bmp280.oversampTemperature driver.bmp280.oversampPressure normalMode] = sent at *
  constructor
  · exact wrote.attached.trans attached
  · refine ⟨by rw [wrote.chip]; exact fit.addressed, ?_⟩
    rw [wrote.chip]
    rcases wrote.either with same | writes
    · rw [same]
      exact fit.inside
    · have after : control sent.2.env = _ := writes
      rw [after]
      exact inside
  · intro quiet _
    have after : control sent.2.env = _ := wrote.quiet quiet
    rw [after, wrote.chip]
    exact ⟨fun setting member => by rw [List.mem_singleton.mp member]; exact mode,
      fun member => by simp at member, fun member => by simp at member⟩

include honest in
theorem soft_rst_keeps (driver : Driver Env) (fit : Fit control driver)
    (attached : driver.attached = true) :
    Keeps control driver [] [] (bmp280SetSoftRst bus driver) := by
  have wrote := write_wrote bus control honest driver fit rstReg softResetCode
  have call : bmp280SetSoftRst bus driver = busWrite bus driver rstReg [softResetCode] := by
    rw [bmp280SetSoftRst, if_pos attached]
  rw [call]
  generalize busWrite bus driver rstReg [softResetCode] = sent at *
  refine ⟨wrote.attached.trans attached, ⟨by rw [wrote.chip]; exact fit.addressed, ?_⟩,
    fun _ _ => tuned_nothing _ _⟩
  rw [wrote.chip]
  rcases wrote.either with same | writes
  · rw [same]
    exact fit.inside
  · have after : control sent.2.env = ⟨0, 0⟩ := writes
    rw [after]
    refine ⟨fun setting => .inl ?_, fit.inside.temperature, fit.inside.pressure⟩
    cases setting <;> rfl

include honest in
theorem set_field_keeps (driver : Driver Env) (fit : Fit control driver)
    (attached : driver.attached = true) (setting : Setting) (shadow : Bmp280T → Bmp280T)
    (remembers : Remembers setting shadow) (before : List Setting) :
    Keeps control driver before (if reg setting = configReg then before else setting :: before)
      (setField bus (reg setting) (mask setting) (pos setting) (wanted setting) shadow driver) :=
  set_keeps control driver fit attached setting shadow remembers _
    (set_field_set bus control honest driver fit attached setting (wanted setting) shadow) before

/-- The settings of `ctrl_meas`. -/
def measuring : List Setting := [.oversampTemperature, .oversampPressure, .powerMode]

/-- What is left of a setup: the driver as it must be, and if nothing was logged the
settings of `ctrl_meas` as asked for. -/
structure Prepared (statuses : List Int8) (driver : Driver Env) : Prop where
  attached : driver.attached = true
  fit : Fit control driver
  tuned : (∀ status ∈ statuses, status = 0) →
    Tuned measuring (control driver.env) driver.bmp280

include honest in
theorem setup_prepared (driver : Driver Env) (fit : Fit control driver)
    (attached : driver.attached = true) :
    Prepared control (pressureSetup bus driver).1 (pressureSetup bus driver).2 := by
  have nothing := tuned_nothing (control driver.env) driver.bmp280
  have mode := power_mode_keeps bus control honest driver fit attached
  have press := set_field_keeps bus control honest _ mode.fit mode.attached .oversampPressure
    (fun chip => { chip with oversampPressure := ultraHighResolutionOversampPressure })
    ⟨fun _ => rfl, fun _ => rfl, fun _ => rfl⟩ [.powerMode]
  have temp := set_field_keeps bus control honest _ press.fit press.attached .oversampTemperature
    (fun chip => { chip with oversampTemperature := ultraHighResolutionOversampTemperature })
    ⟨fun _ => rfl, fun _ => rfl, fun _ => rfl⟩ [.oversampPressure, .powerMode]
  have standby := set_field_keeps bus control honest _ temp.fit temp.attached .standbyDurn id
    ⟨fun _ => rfl, fun _ => rfl, fun _ => rfl⟩ measuring
  have filter := set_field_keeps bus control honest _ standby.fit standby.attached .filter id
    ⟨fun _ => rfl, fun _ => rfl, fun _ => rfl⟩ measuring
  refine ⟨filter.attached, filter.fit, ?_⟩
  intro quiet
  simp only [pressureSetup, List.mem_cons, List.not_mem_nil, or_false, forall_eq_or_imp,
    forall_eq] at quiet
  obtain ⟨first, second, third, fourth, fifth⟩ := quiet
  exact filter.tuned fifth (standby.tuned fourth (temp.tuned third (press.tuned second
    (mode.tuned first nothing))))

/-! Transactions that only read. -/

/-- The driver after reads: its shadow fields and the control registers as before. -/
structure Looked (before after : Driver Env) : Prop where
  attached : after.attached = before.attached
  addressed : after.bmp280.devAddr = before.bmp280.devAddr
  temperature : after.bmp280.oversampTemperature = before.bmp280.oversampTemperature
  pressure : after.bmp280.oversampPressure = before.bmp280.oversampPressure
  control : control after.env = control before.env

theorem looked_trans (first second third : Driver Env) (front : Looked control first second)
    (back : Looked control second third) : Looked control first third :=
  ⟨back.attached.trans front.attached, back.addressed.trans front.addressed,
    back.temperature.trans front.temperature, back.pressure.trans front.pressure,
    back.control.trans front.control⟩

theorem looked_fit (before after : Driver Env) (looked : Looked control before after)
    (fit : Fit control before) : Fit control after := by
  obtain ⟨addressed, values, temperature, pressure⟩ := fit
  refine ⟨looked.addressed.trans addressed, ?_, ?_, ?_⟩
  · rw [looked.control]
    exact values
  · rw [looked.temperature]
    exact temperature
  · rw [looked.pressure]
    exact pressure

theorem looked_prepared (statuses : List Int8) (before after : Driver Env)
    (looked : Looked control before after) (prepared : Prepared control statuses before) :
    Prepared control statuses after := by
  refine ⟨looked.attached.trans prepared.attached,
    looked_fit control before after looked prepared.fit, ?_⟩
  intro quiet
  obtain ⟨values, temperature, pressure⟩ := prepared.tuned quiet
  refine ⟨?_, ?_, ?_⟩
  · rw [looked.control]
    exact values
  · rw [looked.temperature]
    exact temperature
  · rw [looked.pressure]
    exact pressure

include honest in
theorem read_looked (driver : Driver Env) (fit : Fit control driver) (regAddr : UInt8)
    (buffer : List UInt8) (some : 0 < buffer.length) (small : buffer.length < 256) :
    Looked control driver (busRead bus driver regAddr buffer).2.2 :=
  ⟨rfl, rfl, rfl, rfl, (read_kept bus control honest driver fit regAddr buffer some small).2⟩

include honest in
theorem chip_id_looked (count : Nat) (value : UInt8) (driver : Driver Env)
    (fit : Fit control driver) : Looked control driver (readChipId bus count value driver).2.2 := by
  induction count generalizing value driver with
  | zero => exact ⟨rfl, rfl, rfl, rfl, rfl⟩
  | succ count ih =>
      have read := read_looked bus control honest driver fit chipIdReg [value] (by simp) (by simp)
      simp only [readChipId]
      split
      · exact read
      · exact looked_trans control _ _ _ read (ih _ _ (looked_fit control _ _ read fit))

include honest in
theorem calib_looked (driver : Driver Env) (fit : Fit control driver)
    (attached : driver.attached = true) :
    Looked control driver (bmp280GetCalibParam bus driver).2 := by
  have read := read_looked bus control honest driver fit temperatureCalibDigT1LsbReg
    (List.replicate calibDataSize 0) (by decide) (by decide)
  rw [bmp280GetCalibParam, if_pos attached]
  exact ⟨attached.symm ▸ read.attached.trans attached, rfl, rfl, rfl, read.control⟩

include honest in
theorem init_looked (driver : Driver Env) (fit : Fit control driver) :
    Looked control { driver with attached := true } (bmp280Init bus driver).2 := by
  have ready : Fit control { driver with attached := true } := ⟨fit.addressed, fit.inside⟩
  have found := chip_id_looked bus control honest chipIdReadCount 0 _ ready
  have named : Looked control { driver with attached := true } (identified bus driver) :=
    ⟨found.attached, found.addressed, found.temperature, found.pressure, found.control⟩
  rw [init_driver]
  split
  · exact named
  · exact looked_trans control _ _ _ named (calib_looked bus control honest _
      (looked_fit control _ _ named ready) (identified_attached bus driver))

/-! The loops. -/

/-- The driver of a pass when it calls `pressure_reset`, or at its end. -/
def resetFrom (state : LoopState Env) : Driver Env :=
  let value := reading bus state.driver
  if credible value.1 value.2 then received bus state.driver
  else (bmp280ReadUncompPressureTemperature bus (received bus state.driver) (0, 0)).2.2

theorem recheck_driver (driver : Driver Env) :
    (recheck bus driver).2 =
      if (recheck bus driver).1 then
        pressureReset bus (bmp280ReadUncompPressureTemperature bus driver (0, 0)).2.2
      else (bmp280ReadUncompPressureTemperature bus driver (0, 0)).2.2 := by
  unfold recheck
  dsimp only
  split <;> rfl

theorem pass_driver (task : Task) (state : LoopState Env) (attached : state.driver.attached = true) :
    (passOf bus task state).driver =
      if (passOf bus task state).reset then pressureReset bus (resetFrom bus state)
      else resetFrom bus state := by
  have got := read_pressure_temperature_eq bus state.driver state.pressure state.temp attached
  cases task with
  | readPressure =>
      simp only [passOf, readPressurePass, resetFrom, got]
      by_cases fine : credible (reading bus state.driver).1 (reading bus state.driver).2 = true
      · by_cases low : (reading bus state.driver).1 < 75000 <;> simp [fine, low]
      · simp only [fine, Bool.false_eq_true, if_false]
        exact recheck_driver bus (received bus state.driver)
  | pressureTask =>
      simp only [passOf, pressureTaskPass, resetFrom, got]
      by_cases fine : credible (reading bus state.driver).1 (reading bus state.driver).2 = true
      · simp [fine]
      · simp only [fine, Bool.false_eq_true, if_false]
        exact recheck_driver bus (received bus state.driver)

include honest in
theorem reset_from_looked (state : LoopState Env) (fit : Fit control state.driver)
    (attached : state.driver.attached = true) :
    Looked control state.driver (resetFrom bus state) := by
  have first : Looked control state.driver (received bus state.driver) := by
    have read := read_looked bus control honest state.driver fit pressureMsbReg
      (List.replicate dataFrameSize 0) (by decide) (by decide)
    exact ⟨rfl, rfl, rfl, rfl, read.control⟩
  rw [resetFrom]
  split
  · exact first
  · have again := read_looked bus control honest _ (looked_fit control _ _ first fit)
      pressureMsbReg (List.replicate dataFrameSize 0) (by decide) (by decide)
    have fine : (received bus state.driver).attached = true := attached
    rw [bmp280ReadUncompPressureTemperature, if_pos fine]
    exact looked_trans control _ _ _ first again

/-- The statuses that the setup of a reset logs. -/
def resetLog (state : LoopState Env) : List Int8 :=
  (pressureSetup bus (bmp280SetSoftRst bus (resetFrom bus state)).2).1

def addressedDriver (driver : Driver Env) : Driver Env :=
  { driver with bmp280 := { driver.bmp280 with devAddr := i2cAddress1 } }

/-- The statuses that the setup of `pressure_init` logs. -/
def initLog (driver : Driver Env) : List Int8 :=
  (pressureSetup bus (bmp280Init bus (addressedDriver driver)).2).1

/-- The states at the head of the passes of a loop, with what the last setup before
each of them logged. -/
inductive Observed (task : Task) (driver : Driver Env) (data : ClimateData) :
    LoopState Env → List Int8 → Prop where
  | entry : Observed task driver data (entry bus driver data) (initLog bus driver)
  | again (state next : LoopState Env) (log : List Int8) : Observed task driver data state log →
      bodyOf (passOf bus task) state = .inl next →
      Observed task driver data next
        (if (passOf bus task state).reset then resetLog bus state else log)

/-- What one pass leaves. -/
def passLog (task : Task) (state : LoopState Env) (log : List Int8) : List Int8 :=
  if (passOf bus task state).reset then resetLog bus state else log

include honest in
theorem pass_prepared (task : Task) (state : LoopState Env) (log : List Int8)
    (prepared : Prepared control log state.driver) :
    Prepared control (passLog bus task state log) (passOf bus task state).driver := by
  have looked := reset_from_looked bus control honest state prepared.fit prepared.attached
  rw [pass_driver bus task state prepared.attached, passLog]
  split
  · have reset := soft_rst_keeps bus control honest (resetFrom bus state)
      (looked_fit control _ _ looked prepared.fit) (looked.attached.trans prepared.attached)
    exact setup_prepared bus control honest _ reset.fit reset.attached
  · exact looked_prepared control log _ _ looked prepared

include honest in
theorem entry_prepared (driver : Driver Env) (data : ClimateData)
    (inside : Within (control driver.env) driver.bmp280) :
    Prepared control (initLog bus driver) (entry bus driver data).driver := by
  have fit : Fit control (addressedDriver driver) :=
    ⟨rfl, inside.values, inside.temperature, inside.pressure⟩
  have looked := init_looked bus control honest (addressedDriver driver) fit
  exact setup_prepared bus control honest _
    (looked_fit control _ _ looked ⟨fit.addressed, fit.inside⟩) looked.attached

include honest in
theorem observed_prepared (task : Task) (driver : Driver Env) (data : ClimateData)
    (inside : Within (control driver.env) driver.bmp280) (state : LoopState Env) (log : List Int8)
    (observed : Observed bus task driver data state log) : Prepared control log state.driver := by
  induction observed with
  | entry => exact entry_prepared bus control honest driver data inside
  | again state next log _ pass ih =>
      obtain ⟨_, rfl⟩ := (body_again (passOf bus task) state next).mp pass
      exact pass_prepared bus control honest task state log ih

theorem reaches_observed (task : Task) (driver : Driver Env) (data : ClimateData)
    (state : LoopState Env)
    (reached : Loop.Reaches (bodyOf (passOf bus task)) (entry bus driver data) state) :
    ∃ log, Observed bus task driver data state log := by
  induction reached with
  | start => exact ⟨_, .entry⟩
  | again _ pass ih =>
      obtain ⟨log, observed⟩ := ih
      exact ⟨_, .again _ _ log observed pass⟩

include honest in
/-- Every driver that a cycle of `app_main` starts with. -/
theorem runs_within (env : Env) (initial : Within (control env) Bmp280T.zero) (app : App Env)
    (run : Runs bus (AppMain.boot env) app) : Within (control app.driver.env) app.driver.bmp280 := by
  induction run with
  | refl => exact initial
  | tail _ step ih =>
      cases step with
      | cycle out call buffer reads co2 rest running returned measured =>
          obtain ⟨state, reached, left⟩ := Loop.returns_leaves _ _ out returned
          obtain ⟨log, observed⟩ := reaches_observed bus .readPressure _ _ state reached
          obtain ⟨_, rfl⟩ := (body_leave (readPressurePass bus) state out).mp left
          have prepared := observed_prepared bus control honest .readPressure _ _ ih state log observed
          exact (pass_prepared bus control honest .readPressure state log prepared).fit.inside

end Calls

/-! A sensor behind the bus functions of `pressure.c`. -/

section Wire
variable {Regs : Type}

def controlOf (get : Regs → UInt8 → UInt8) (regs : Regs) : Control :=
  ⟨get regs ctrlMeasReg, get regs configReg⟩

/-- A sensor by its registers: a write does to the control registers what it should,
and they do not change by themselves outside forced mode. -/
structure Part (Regs : Type) where
  get : Regs → UInt8 → UInt8
  put : Regs → UInt8 → UInt8 → Regs
  turn : Regs → Regs
  turned : ∀ regs, ¬ Forced (controlOf get regs) → controlOf get (turn regs) = controlOf get regs
  puts : ∀ regs regAddr value,
    Writes (controlOf get regs) regAddr value (controlOf get (put regs regAddr value))

variable (part : Part Regs) (fail : Fail)

def Part.bus : Bus (Line Regs) := linkBus i2cAddress1 part.get part.put part.turn fail

def Part.control (line : Line Regs) : Control := controlOf part.get line.cells.regs

theorem part_puts (line : Line Regs) (awake : ¬ Forced (part.control line))
    (regAddr value : UInt8) :
    Writes (part.control line) regAddr value
      (controlOf part.get (part.put (part.turn line.cells.regs) regAddr value)) := by
  have quiet : controlOf part.get (part.turn line.cells.regs) = part.control line :=
    part.turned _ awake
  rw [← quiet]
  exact part.puts (part.turn line.cells.regs) regAddr value

theorem part_honest : Honest (part.bus fail) part.control := by
  constructor
  · intro line regAddr buffer some small awake
    have read := link_read i2cAddress1 part.get part.put part.turn fail line i2cAddress1 regAddr
      buffer some small
    exact (congrArg (controlOf part.get) read.regs).trans (part.turned _ awake)
  · intro line setting byte awake ok
    have read := link_read i2cAddress1 part.get part.put part.turn fail line i2cAddress1
      (reg setting) [byte] (by simp) (by simp)
    have quiet : controlOf part.get (part.turn line.cells.regs) = part.control line :=
      part.turned _ awake
    refine (read.told ok).trans ?_
    rw [← quiet]
    have first : reg setting + UInt8.ofNat 0 = reg setting := UInt8.add_zero _
    simp only [contents, List.length_singleton, List.range_one, List.map_singleton, first]
    cases setting <;> rfl
  · intro line regAddr value awake ok
    have write := link_write i2cAddress1 part.get part.put part.turn fail line i2cAddress1 regAddr
      value
    have after := congrArg (controlOf part.get) (write.written ok)
    have puts := part_puts part line awake regAddr value
    rwa [← after] at puts
  · intro line regAddr value awake
    have write := link_write i2cAddress1 part.get part.put part.turn fail line i2cAddress1 regAddr
      value
    cases write.either with
    | inl same => exact .inl ((congrArg (controlOf part.get) same).trans (part.turned _ awake))
    | inr written =>
        have after := congrArg (controlOf part.get) written
        have puts := part_puts part line awake regAddr value
        rw [← after] at puts
        exact .inr puts

/-- In every state of every run, whatever becomes of the commands on the bus. -/
theorem runs_operating (line : Line Regs) (initial : Within (part.control line) Bmp280T.zero)
    (app : App (Line Regs)) (run : Runs (part.bus fail) (AppMain.boot line) app) (task : Task)
    (state : LoopState (Line Regs)) (log : List Int8)
    (observed : Observed (part.bus fail) task app.driver app.data state log) :
    Within (part.control state.driver.env) state.driver.bmp280 ∧
      ((∀ status ∈ log, status = 0) →
        Tuned measuring (part.control state.driver.env) state.driver.bmp280) := by
  have honest := part_honest part fail
  have inside := runs_within (part.bus fail) part.control honest line initial app run
  have prepared := observed_prepared (part.bus fail) part.control honest task app.driver app.data
    inside state log observed
  exact ⟨prepared.fit.inside, prepared.tuned⟩

end Wire

def registers (file : Setup.RegisterFile) (regAddr : UInt8) : UInt8 := file.regs regAddr

theorem mode_slice (byte : UInt8) (mode : byte &&& 0x03 = normalMode) :
    slice .powerMode byte = normalMode := by
  have shifted : slice .powerMode byte = (byte &&& 0x03) >>> 0 := rfl
  rw [shifted, mode]
  rfl

theorem register_puts (file : Setup.RegisterFile) (regAddr value : UInt8) :
    Writes (controlOf registers file) regAddr value
      (controlOf registers (RegisterFile.write file regAddr value)) := by
  have apart : configReg ≠ ctrlMeasReg := by decide
  rw [Writes, RegisterFile.write]
  by_cases reset : regAddr = rstReg
  · subst reset
    rw [if_neg (by decide), if_neg (by decide), if_pos rfl]
    by_cases code : value = softResetCode
    · rw [if_pos ⟨rfl, code⟩, if_pos code]
      rfl
    · rw [if_neg fun both => code both.2, if_neg code]
  · rw [if_neg reset]
    by_cases measure : regAddr = ctrlMeasReg
    · subst measure
      rw [if_pos rfl, Setup.RegisterFile.put, if_neg (by decide)]
      simp [controlOf, registers, apart]
    · rw [if_neg measure]
      by_cases config : regAddr = configReg
      · subst config
        rw [if_pos rfl, Setup.RegisterFile.put, if_pos rfl]
        by_cases passed :
            (file.ignores 0 && file.ctrlMeas &&& 0x03 == normalMode) = true
        · right
          have normal := (Bool.and_eq_true_iff.mp passed).2
          refine ⟨by simp [controlOf, registers, passed], ?_⟩
          have mode : file.ctrlMeas &&& 0x03 = normalMode := by simpa using normal
          exact mode_slice _ mode
        · left
          simp [controlOf, registers, passed, apart.symm]
      · rw [if_neg config, if_neg fun both => reset both.1, Setup.RegisterFile.put, if_neg config]
        simp [controlOf, registers, Ne.symm measure, Ne.symm config]

theorem registers_stay (file : Setup.RegisterFile)
    (_ : ¬ Forced (controlOf registers file)) :
    controlOf registers (id file) = controlOf registers file := rfl

/-- The register file of the settings panel as such a sensor. -/
def registerPart : Part Setup.RegisterFile where
  get := registers
  put := RegisterFile.write
  turn := id
  turned := registers_stay
  puts := register_puts

/-- A sensor after power-on that passes over every write to `config` it may and holds a
frame that reads 483.55 hPa. The bus cuts the first link, which asks for the chip id,
and the first write of the second call's setup. -/
def cutLine : Line Setup.RegisterFile where
  cells := ⟨⟨fun regAddr =>
    if regAddr = chipIdReg then 0x58
    else if 0x88 ≤ regAddr ∧ regAddr < 0xA0 then
      nvmOf Publication.referenceCalib (regAddr.toNat - 0x88)
    else if 0xF7 ≤ regAddr then byteAt [0xB0, 0x00, 0x00, 0x7E, 0xED, 0x00] (regAddr.toNat - 0xF7)
    else 0,
    fun _ => .done, fun _ => true⟩, 0, false⟩
  fates := fun link i => if link = 0 ∧ i = 5 ∨ link = 26 ∧ i = 2 then .lost else .through

def cutBus : Bus (Line Setup.RegisterFile) := registerPart.bus Publication.failOne

def lowState : LoopState (Line Setup.RegisterFile) :=
  entry cutBus (AppMain.boot cutLine).driver (AppMain.boot cutLine).data

/-- After the reset that the low reading calls for. -/
def resetState : LoopState (Line Setup.RegisterFile) :=
  lowState.after (readPressurePass cutBus lowState)

def secondApp : App (Line Setup.RegisterFile) :=
  (AppMain.boot cutLine).cycle (resetState.after (readPressurePass cutBus resetState))
    ⟨answered, answered⟩ 400

theorem second_run : Runs cutBus (AppMain.boot cutLine) secondApp := by
  have again : bodyOf (readPressurePass cutBus) lowState = .inl resetState :=
    (body_again _ _ _).mpr ⟨by decide +kernel, rfl⟩
  have left := (body_leave (readPressurePass cutBus) resetState _).mpr ⟨by decide +kernel, rfl⟩
  have returned : ReadPressure cutBus (AppMain.boot cutLine).driver (AppMain.boot cutLine).data
      (resetState.after (readPressurePass cutBus resetState)) :=
    (Loop.returns_again _ _ _ again _).mpr (Loop.returns_leave _ _ _ left)
  exact .single (.cycle (AppMain.boot cutLine) _ ⟨answered, answered⟩ (fun _ => 0) freshReads 400 []
    (show (0 : UInt8) < 100 by decide) returned (fresh_reads_return _))

theorem cut_within : Within (registerPart.control cutLine) Bmp280T.zero := by
  have fields (setting : Setting) : (registerPart.control cutLine).value setting = 0 := by
    cases setting <;> rfl
  exact ⟨fun setting => .inl (fields setting), .inl rfl, .inl rfl⟩

theorem reset_log : resetLog cutBus lowState = [0, 0, 0, 0, 0] := by decide +kernel

theorem reset_observed :
    Observed cutBus .readPressure (AppMain.boot cutLine).driver (AppMain.boot cutLine).data resetState
      [0, 0, 0, 0, 0] := by
  have again : bodyOf (passOf cutBus .readPressure) lowState = .inl resetState :=
    (body_again _ _ _).mpr ⟨by decide +kernel, rfl⟩
  have reset : (passOf cutBus .readPressure lowState).reset = true := by decide +kernel
  have observed := Observed.again lowState resetState _ .entry again
  rwa [if_pos reset, reset_log] at observed

/-- After the reset of the first cycle, and in the second one, whose setup is cut. -/
theorem runs_operating_cut :
    let second := entry cutBus secondApp.driver secondApp.data
    Tuned measuring (registerPart.control resetState.driver.env) resetState.driver.bmp280 ∧
      initLog cutBus secondApp.driver = [1, 0, 0, 0, 0] ∧
      Within (registerPart.control second.driver.env) second.driver.bmp280 := by
  have first := runs_operating registerPart Publication.failOne cutLine cut_within _ .refl
    .readPressure resetState _ reset_observed
  have later := runs_operating registerPart Publication.failOne cutLine cut_within secondApp second_run
    .readPressure _ _ .entry
  exact ⟨first.2 (by simp), by decide +kernel, later.1⟩

end AirMonitor.Operating
