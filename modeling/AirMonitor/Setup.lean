import Mathlib.Logic.Function.Basic
import AirMonitor.Sensor

/-!
`pressure_setup` on the sensor's registers. The mode is written first, so every
later write comes in normal mode, where the sensor may pass over a write to
`config` and acknowledge it all the same: no status shows it.
-/

namespace AirMonitor.Setup
open Bytes Bmp280 Pressure Sensor

/-- `BMP280_GET_BITSLICE` -/
def getBitslice (regvar mask pos : UInt8) : UInt8 := (regvar &&& mask) >>> pos

theorem byte_ext (left right : UInt8)
    (bits : ∀ i, left.toBitVec.getLsbD i = right.toBitVec.getLsbD i) : left = right :=
  UInt8.toBitVec_inj.mp (BitVec.eq_of_getLsbD_eq fun i _ => bits i)

theorem slice_own (regvar mask pos val : UInt8) :
    setBitslice regvar mask pos val &&& mask = (val <<< pos) &&& mask := by
  apply byte_ext
  intro i
  simp only [setBitslice, UInt8.toBitVec_and, UInt8.toBitVec_or, UInt8.toBitVec_not,
    BitVec.getLsbD_and, BitVec.getLsbD_or, BitVec.getLsbD_not]
  cases mask.toBitVec.getLsbD i <;> simp

theorem slice_other (regvar mask pos val other : UInt8) (apart : mask &&& other = 0) :
    setBitslice regvar mask pos val &&& other = regvar &&& other := by
  apply byte_ext
  intro i
  have bit : (mask.toBitVec.getLsbD i && other.toBitVec.getLsbD i) = false := by
    rw [← BitVec.getLsbD_and, ← UInt8.toBitVec_and, apart]
    exact BitVec.getLsbD_zero
  simp only [setBitslice, UInt8.toBitVec_and, UInt8.toBitVec_or, UInt8.toBitVec_not,
    BitVec.getLsbD_and, BitVec.getLsbD_or, BitVec.getLsbD_not]
  cases held : mask.toBitVec.getLsbD i with
  | true =>
      rw [held, Bool.true_and] at bit
      simp [bit]
  | false =>
      by_cases inside : i < 8
      · simp [inside]
      · rw [BitVec.getLsbD_of_ge _ _ (by omega), BitVec.getLsbD_of_ge _ _ (by omega)]
        rfl

theorem mode_bits (temperature pressure : UInt8) :
    ((temperature <<< 5) + (pressure <<< 2) + normalMode) &&& 0x03 = 0x03 := by
  apply UInt8.toNat_inj.mp
  have five : (5 : UInt8).toNat % 8 = 5 := rfl
  have two : (2 : UInt8).toNat % 8 = 2 := rfl
  have three : (0x03 : UInt8).toNat = 2 ^ 2 - 1 := rfl
  have mode : normalMode.toNat = 3 := rfl
  rw [UInt8.toNat_and, three, Nat.and_two_pow_sub_one_eq_mod]
  simp only [UInt8.toNat_add, UInt8.toNat_shiftLeft, five, two, mode, Nat.shiftLeft_eq]
  omega

/-- The sensor as a register file, with what is still to come of it: how its
transactions end, and which writes to `config` it passes over if they find it in
normal mode. -/
structure RegisterFile where
  regs : UInt8 → UInt8
  outcomes : Nat → Outcome
  ignores : Nat → Bool

def RegisterFile.ctrlMeas (file : RegisterFile) : UInt8 := file.regs ctrlMeasReg

def RegisterFile.config (file : RegisterFile) : UInt8 := file.regs configReg

def RegisterFile.next (file : RegisterFile) : RegisterFile :=
  { file with outcomes := fun i => file.outcomes (i + 1) }

def RegisterFile.put (file : RegisterFile) (regAddr value : UInt8) : RegisterFile :=
  if regAddr = configReg then
    let passed := file.ignores 0 && file.ctrlMeas &&& 0x03 == normalMode
    { file with
      regs := if passed then file.regs else Function.update file.regs regAddr value
      ignores := fun i => file.ignores (i + 1) }
  else { file with regs := Function.update file.regs regAddr value }

def registers (fail : Fail) : Bus RegisterFile where
  write file _ regAddr regData :=
    let outcome := file.outcomes 0
    (outcome.ok, if outcome.writes then file.next.put regAddr (byteAt regData 0) else file.next)
  read file _ regAddr regData :=
    let outcome := file.outcomes 0
    (outcome.ok,
      (List.range regData.length).map fun i =>
        outcome.leaves i (file.regs (regAddr + UInt8.ofNat i)) (byteAt regData i),
      file.next)
  readLength _ _ _ _ := by simp
  fail := fail.1
  failNonzero := fail_nonzero fail

variable (fail : Fail)

/-- What a quiet call of a setter did: read, modify and write. -/
theorem set_field_quiet (reg mask pos value : UInt8) (shadow : Bmp280T → Bmp280T)
    (driver : Driver RegisterFile)
    (quiet : (setField (registers fail) reg mask pos value shadow driver).1 = 0) :
    (setField (registers fail) reg mask pos value shadow driver).2 =
      { driver with
        bmp280 := shadow driver.bmp280
        env := driver.env.next.next.put reg
          (setBitslice (driver.env.regs reg) mask pos value) } := by
  obtain ⟨chip, attached, file⟩ := driver
  have loud := fail.2
  cases attached with
  | false => simp [setField, nullPtr] at quiet
  | true =>
      cases first : file.outcomes 0 with
      | failed bytes written =>
          simp [setField, busRead, registers, first, success, loud, Outcome.ok] at quiet
      | done =>
          cases second : file.outcomes 1 with
          | failed bytes written =>
              simp [setField, busRead, busWrite, registers, first, second, success,
                RegisterFile.next, loud, Outcome.ok] at quiet
          | done =>
              simp [setField, busRead, busWrite, registers, first, second, success,
                RegisterFile.next, byteAt, Outcome.ok, Outcome.writes, Outcome.leaves]

theorem put_ctrl (file : RegisterFile) (value : UInt8) :
    (file.put ctrlMeasReg value).ctrlMeas = value ∧
      (file.put ctrlMeasReg value).config = file.config ∧
      (file.put ctrlMeasReg value).ignores = file.ignores := by
  have other : ctrlMeasReg ≠ configReg := by decide
  simp [RegisterFile.put, RegisterFile.ctrlMeas, RegisterFile.config, other, other.symm]

theorem put_config (file : RegisterFile) (value : UInt8) (normal : file.ctrlMeas &&& 0x03 = 0x03) :
    (file.put configReg value).ctrlMeas = file.ctrlMeas ∧
      (file.put configReg value).config = (if file.ignores 0 then file.config else value) ∧
      (file.put configReg value).ignores = fun i => file.ignores (i + 1) := by
  have other : ctrlMeasReg ≠ configReg := by decide
  have mode : (file.ctrlMeas &&& 0x03 == normalMode) = true := by rw [normal]; rfl
  cases ignored : file.ignores 0 <;>
    simp_all [RegisterFile.put, RegisterFile.ctrlMeas, RegisterFile.config]

theorem set_power_mode_quiet (driver : Driver RegisterFile)
    (quiet : (bmp280SetPowerMode (registers fail) normalMode driver).1 = 0) :
    let after := (bmp280SetPowerMode (registers fail) normalMode driver).2
    after.bmp280 = driver.bmp280 ∧
      after.env.ctrlMeas = (driver.bmp280.oversampTemperature <<< 5) +
        (driver.bmp280.oversampPressure <<< 2) + normalMode ∧
      after.env.config = driver.env.config ∧ after.env.ignores = driver.env.ignores := by
  obtain ⟨chip, attached, file⟩ := driver
  have loud := fail.2
  cases attached with
  | false => simp [bmp280SetPowerMode, nullPtr] at quiet
  | true =>
      cases first : file.outcomes 0 with
      | failed bytes written =>
          simp [bmp280SetPowerMode, busWrite, registers, first, loud, Outcome.ok] at quiet
      | done =>
          simp only [bmp280SetPowerMode, busWrite, registers, first]
          exact ⟨rfl, put_ctrl file.next _⟩

theorem ctrl_field_quiet (mask pos value : UInt8) (shadow : Bmp280T → Bmp280T)
    (driver : Driver RegisterFile)
    (quiet : (setField (registers fail) ctrlMeasReg mask pos value shadow driver).1 = 0) :
    let after := (setField (registers fail) ctrlMeasReg mask pos value shadow driver).2
    after.bmp280 = shadow driver.bmp280 ∧
      after.env.ctrlMeas = setBitslice driver.env.ctrlMeas mask pos value ∧
      after.env.config = driver.env.config ∧ after.env.ignores = driver.env.ignores := by
  rw [set_field_quiet fail ctrlMeasReg mask pos value shadow driver quiet]
  exact ⟨rfl, put_ctrl driver.env.next.next _⟩

/-- A quiet setter of `config` in normal mode: the status does not tell whether
the sensor took the write. -/
theorem config_field_quiet (mask pos value : UInt8) (driver : Driver RegisterFile)
    (normal : driver.env.ctrlMeas &&& 0x03 = 0x03)
    (quiet : (setField (registers fail) configReg mask pos value id driver).1 = 0) :
    let after := (setField (registers fail) configReg mask pos value id driver).2
    after.bmp280 = driver.bmp280 ∧ after.env.ctrlMeas = driver.env.ctrlMeas ∧
      after.env.config = (if driver.env.ignores 0 then driver.env.config
        else setBitslice driver.env.config mask pos value) ∧
      after.env.ignores = fun i => driver.env.ignores (i + 1) := by
  rw [set_field_quiet fail configReg mask pos value id driver quiet]
  exact ⟨rfl, put_config driver.env.next.next _ normal⟩

/-- `ctrl_meas` with 2X and 16X oversampling in normal mode, `config` with 1 ms
standby, filter coefficient 16 and its other bits as before, and the shadow
fields as in `ctrl_meas`. -/
structure Configured (before after : Driver RegisterFile) : Prop where
  temperature : getBitslice after.env.ctrlMeas 0xE0 5 = ultraHighResolutionOversampTemperature
  pressure : getBitslice after.env.ctrlMeas 0x1C 2 = ultraHighResolutionOversampPressure
  mode : getBitslice after.env.ctrlMeas 0x03 0 = normalMode
  standby : getBitslice after.env.config 0xE0 5 = standbyTime1Ms
  filter : getBitslice after.env.config 0x1C 2 = filterCoeff16
  others : after.env.config &&& 0x03 = before.env.config &&& 0x03
  shadowTemperature : after.bmp280.oversampTemperature = getBitslice after.env.ctrlMeas 0xE0 5
  shadowPressure : after.bmp280.oversampPressure = getBitslice after.env.ctrlMeas 0x1C 2

/-- A write of a field of `config` that the sensor takes, or need not take. -/
def Lands (ignored : Bool) (config mask pos value : UInt8) : Prop :=
  ignored = false ∨ getBitslice config mask pos = value

def setupAfter (driver : Driver RegisterFile) : Driver RegisterFile :=
  (pressureSetup (registers fail) driver).2

def Quiet (driver : Driver RegisterFile) : Prop :=
  ∀ status ∈ (pressureSetup (registers fail) driver).1, status = 0

/-- The registers after a quiet setup: `ctrl_meas` from the mode write on,
`config` through two writes that may each be passed over. -/
theorem quiet_setup (driver : Driver RegisterFile) (quiet : Quiet fail driver) :
    let after := setupAfter fail driver
    let standby := if driver.env.ignores 0 then driver.env.config
      else setBitslice driver.env.config 0xE0 5 standbyTime1Ms
    after.env.ctrlMeas = setBitslice (setBitslice ((driver.bmp280.oversampTemperature <<< 5) +
        (driver.bmp280.oversampPressure <<< 2) + normalMode) 0x1C 2
        ultraHighResolutionOversampPressure) 0xE0 5 ultraHighResolutionOversampTemperature ∧
      after.env.config = (if driver.env.ignores 1 then standby
        else setBitslice standby 0x1C 2 filterCoeff16) ∧
      after.bmp280 = { driver.bmp280 with
        oversampPressure := ultraHighResolutionOversampPressure
        oversampTemperature := ultraHighResolutionOversampTemperature } := by
  simp only [Quiet, setupAfter, pressureSetup, bmp280SetOversampPressure,
    bmp280SetOversampTemperature, bmp280SetStandbyDurn, bmp280SetFilter, List.mem_cons,
    List.not_mem_nil, or_false, forall_eq_or_imp, forall_eq] at quiet ⊢
  obtain ⟨first, second, third, fourth, fifth⟩ := quiet
  -- the five calls in turn; of each driver only what its lemma says is used below
  have mode := set_power_mode_quiet fail driver first
  generalize (bmp280SetPowerMode (registers fail) normalMode driver).2 = one at *
  have press := ctrl_field_quiet fail _ _ _ _ one second
  generalize (setField (registers fail) ctrlMeasReg 0x1C 2 _ _ one).2 = two at *
  have temp := ctrl_field_quiet fail _ _ _ _ two third
  generalize (setField (registers fail) ctrlMeasReg 0xE0 5 _ _ two).2 = three at *
  dsimp only at mode press temp
  have measured : three.env.ctrlMeas = setBitslice (setBitslice
      ((driver.bmp280.oversampTemperature <<< 5) + (driver.bmp280.oversampPressure <<< 2) +
        normalMode) 0x1C 2 ultraHighResolutionOversampPressure) 0xE0 5
        ultraHighResolutionOversampTemperature := by
    rw [temp.2.1, press.2.1, mode.2.1]
  have normal : three.env.ctrlMeas &&& 0x03 = 0x03 := by
    rw [measured, slice_other _ 0xE0 5 _ 0x03 rfl, slice_other _ 0x1C 2 _ 0x03 rfl, mode_bits]
  have standby := config_field_quiet fail _ _ _ three normal fourth
  generalize (setField (registers fail) configReg 0xE0 5 _ _ three).2 = four at *
  dsimp only at standby
  have filter := config_field_quiet fail _ _ _ four (by rw [standby.2.1, normal]) fifth
  generalize (setField (registers fail) configReg 0x1C 2 _ _ four).2 = five at *
  dsimp only at filter
  refine ⟨by rw [filter.2.1, standby.2.1, measured], ?_, ?_⟩
  · rw [filter.2.2.1, standby.2.2.1, standby.2.2.2, temp.2.2.1, temp.2.2.2, press.2.2.1,
      press.2.2.2, mode.2.2.1, mode.2.2.2]
  · rw [filter.1, standby.1, temp.1, press.1, mode.1]

theorem measured_fields (driver : Driver RegisterFile) (quiet : Quiet fail driver) :
    let after := setupAfter fail driver
    getBitslice after.env.ctrlMeas 0xE0 5 = ultraHighResolutionOversampTemperature ∧
      getBitslice after.env.ctrlMeas 0x1C 2 = ultraHighResolutionOversampPressure ∧
      getBitslice after.env.ctrlMeas 0x03 0 = normalMode := by
  obtain ⟨measured, _, _⟩ := quiet_setup fail driver quiet
  dsimp only at measured ⊢
  rw [measured]
  refine ⟨?_, ?_, ?_⟩
  · rw [getBitslice, slice_own]
    rfl
  · rw [getBitslice, slice_other _ 0xE0 5 _ 0x1C rfl, slice_own]
    rfl
  · rw [getBitslice, slice_other _ 0xE0 5 _ 0x03 rfl, slice_other _ 0x1C 2 _ 0x03 rfl, mode_bits]
    rfl

/-- One write of `config` sets its field where it lands and no other bit anywhere. -/
theorem config_write (ignored : Bool) (config mask pos value : UInt8)
    (fits : getBitslice (setBitslice config mask pos value) mask pos = value) :
    let after := if ignored then config else setBitslice config mask pos value
    (getBitslice after mask pos = value ↔ Lands ignored config mask pos value) ∧
      ∀ other, mask &&& other = 0 → after &&& other = config &&& other := by
  cases ignored with
  | true => exact ⟨by simp [Lands], fun _ _ => rfl⟩
  | false =>
      refine ⟨by simp [Lands, fits], ?_⟩
      intro other apart
      exact slice_other config mask pos value other apart

theorem setup_configures_iff (driver : Driver RegisterFile) (quiet : Quiet fail driver) :
    Configured driver (setupAfter fail driver) ↔
      Lands (driver.env.ignores 0) driver.env.config 0xE0 5 standbyTime1Ms ∧
        Lands (driver.env.ignores 1) driver.env.config 0x1C 2 filterCoeff16 := by
  obtain ⟨temperature, pressure, mode⟩ := measured_fields fail driver quiet
  obtain ⟨_, config, shadow⟩ := quiet_setup fail driver quiet
  dsimp only at temperature pressure mode config shadow
  have fitsStandby : getBitslice (setBitslice driver.env.config 0xE0 5 standbyTime1Ms) 0xE0 5 =
      standbyTime1Ms := by
    rw [getBitslice, slice_own]
    rfl
  have first :=
    config_write (driver.env.ignores 0) driver.env.config 0xE0 5 standbyTime1Ms fitsStandby
  generalize (if driver.env.ignores 0 then driver.env.config
    else setBitslice driver.env.config 0xE0 5 standbyTime1Ms) = middle at *
  have fitsFilter : getBitslice (setBitslice middle 0x1C 2 filterCoeff16) 0x1C 2 =
      filterCoeff16 := by
    rw [getBitslice, slice_own]
    rfl
  have second := config_write (driver.env.ignores 1) middle 0x1C 2 filterCoeff16 fitsFilter
  rw [← config] at second
  dsimp only at first second
  have standby : getBitslice (setupAfter fail driver).env.config 0xE0 5 =
      getBitslice middle 0xE0 5 := by
    rw [getBitslice, second.2 0xE0 rfl, getBitslice]
  have filter : getBitslice middle 0x1C 2 = getBitslice driver.env.config 0x1C 2 := by
    rw [getBitslice, first.2 0x1C rfl, getBitslice]
  have others : (setupAfter fail driver).env.config &&& 0x03 = driver.env.config &&& 0x03 := by
    rw [second.2 0x03 rfl, first.2 0x03 rfl]
  constructor
  · intro done
    refine ⟨first.1.mp (standby.symm.trans done.standby), ?_⟩
    have landed := second.1.mp done.filter
    rwa [Lands, filter] at landed
  · rintro ⟨one, two⟩
    refine ⟨temperature, pressure, mode, standby.trans (first.1.mpr one), second.1.mpr ?_, others,
      ?_, ?_⟩
    · rwa [Lands, filter]
    · rw [shadow, temperature]
    · rw [shadow, pressure]

def failCode : Fail := ⟨-1, by decide⟩

/-- A sensor after power-on that passes over every write to `config` in normal mode. -/
def poweredOn : Driver RegisterFile :=
  ⟨Bmp280T.zero, true, ⟨fun _ => 0, fun _ => .done, fun _ => true⟩⟩

theorem powered_on_quiet : Quiet failCode poweredOn := by
  have statuses : (pressureSetup (registers failCode) poweredOn).1 = [0, 0, 0, 0, 0] := rfl
  rw [Quiet, statuses]
  simp

theorem setup_configures_iff_powered_on :
    Configured poweredOn (setupAfter failCode poweredOn) ↔
      Lands (poweredOn.env.ignores 0) poweredOn.env.config 0xE0 5 standbyTime1Ms ∧
        Lands (poweredOn.env.ignores 1) poweredOn.env.config 0x1C 2 filterCoeff16 :=
  setup_configures_iff failCode poweredOn powered_on_quiet

/-- Five zero statuses, and the filter is off. -/
theorem filter_passed_over :
    Quiet failCode poweredOn ∧ (setupAfter failCode poweredOn).env.config = 0 ∧
      ¬ Configured poweredOn (setupAfter failCode poweredOn) := by
  have config : (setupAfter failCode poweredOn).env.config = 0 := by decide +kernel
  refine ⟨powered_on_quiet, config, ?_⟩
  intro done
  have filter := done.filter
  rw [config] at filter
  exact absurd filter (by decide)

end AirMonitor.Setup
