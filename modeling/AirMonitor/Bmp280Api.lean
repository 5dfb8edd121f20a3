import AirMonitor.Setup

/-!
The part of `bosch_bmp280.c` that `pressure.c` does not call: the getters, the
work modes, the SPI switch and the measurement in forced mode.
-/

namespace AirMonitor.Bmp280Api
open Bytes Bmp280 Sensor Setup

def forcedMode : UInt8 := 0x01
def ultraHighResolutionMode : UInt8 := 0x04
def temperatureMsbReg : UInt8 := 0xFA
def dataSize : Nat := 3
def tInitMax : Nat := 20
def tMeasurePerOsrsMax : Nat := 37
def tSetupPressureMax : Nat := 10

section Settings
variable {Env : Type} (bus : Bus Env)

/-- The read shared by the getters. `value` is the caller's variable: it is assigned,
and so is the shadow field, whatever the status of the read. -/
def getField (reg mask pos : UInt8) (shadow : UInt8 → Bmp280T → Bmp280T) (value : UInt8)
    (driver : Driver Env) : Int8 × UInt8 × Driver Env :=
  if driver.attached then
    let got := busRead bus driver reg [0]
    let value := getBitslice (byteAt got.2.1 0) mask pos
    (got.1, value, { got.2.2 with bmp280 := shadow value got.2.2.bmp280 })
  else (nullPtr, value, driver)

def bmp280GetOversampTemperature : UInt8 → Driver Env → Int8 × UInt8 × Driver Env :=
  getField bus ctrlMeasReg 0xE0 5 fun value chip => { chip with oversampTemperature := value }

def bmp280GetOversampPressure : UInt8 → Driver Env → Int8 × UInt8 × Driver Env :=
  getField bus ctrlMeasReg 0x1C 2 fun value chip => { chip with oversampPressure := value }

def bmp280GetPowerMode : UInt8 → Driver Env → Int8 × UInt8 × Driver Env :=
  getField bus ctrlMeasReg 0x03 0 fun _ chip => chip

def bmp280GetSpi3 : UInt8 → Driver Env → Int8 × UInt8 × Driver Env :=
  getField bus configReg 0x01 0 fun _ chip => chip

def bmp280SetSpi3 (value : UInt8) : Driver Env → Int8 × Driver Env :=
  setField bus configReg 0x01 0 value id

def bmp280GetFilter : UInt8 → Driver Env → Int8 × UInt8 × Driver Env :=
  getField bus configReg 0x1C 2 fun _ chip => chip

def bmp280GetStandbyDurn : UInt8 → Driver Env → Int8 × UInt8 × Driver Env :=
  getField bus configReg 0xE0 5 fun _ chip => chip

/-- The `switch` of `bmp280_set_work_mode`: oversampling of temperature and pressure. -/
def workMode (mode : UInt8) (chip : Bmp280T) : Bmp280T :=
  match mode with
  | 0 => { chip with oversampTemperature := 0x01, oversampPressure := 0x01 }
  | 1 => { chip with oversampTemperature := 0x01, oversampPressure := 0x02 }
  | 2 => { chip with oversampTemperature := 0x01, oversampPressure := 0x03 }
  | 3 => { chip with oversampTemperature := 0x01, oversampPressure := 0x04 }
  | 4 => { chip with oversampTemperature := 0x02, oversampPressure := 0x05 }
  | _ => chip

def bmp280SetWorkMode (mode : UInt8) (driver : Driver Env) : Int8 × Driver Env :=
  if driver.attached then
    if mode ≤ ultraHighResolutionMode then
      let got := busRead bus driver ctrlMeasReg [0]
      if got.1 == success then
        let chip := workMode mode got.2.2.bmp280
        let value := setBitslice (byteAt got.2.1 0) 0xE0 5 chip.oversampTemperature
        let value := setBitslice value 0x1C 2 chip.oversampPressure
        let sent := busWrite bus { got.2.2 with bmp280 := chip } ctrlMeasReg [value]
        (got.1 + sent.1, sent.2)
      else (got.1, got.2.2)
    else (outOfRange, driver)
  else (nullPtr, driver)

end Settings

section Measurement
variable {Env : Type} (bus : Bus Env)

def readUncomp (reg : UInt8) (raw : Int32) (driver : Driver Env) : Int8 × Int32 × Driver Env :=
  if driver.attached then
    let got := busRead bus driver reg (List.replicate dataSize 0)
    (got.1, rawValue got.2.1 0, got.2.2)
  else (nullPtr, raw, driver)

def bmp280ReadUncompPressure : Int32 → Driver Env → Int8 × Int32 × Driver Env :=
  readUncomp bus pressureMsbReg

def bmp280ReadUncompTemperature : Int32 → Driver Env → Int8 × Int32 × Driver Env :=
  readUncomp bus temperatureMsbReg

/-- The delay in milliseconds, as the `u8` keeps it; `none` where the `int` expression
overflows, which takes a field from 26 on. -/
def bmp280ComputeWaitTime (chip : Bmp280T) : Option UInt8 :=
  let total := tInitMax + tMeasurePerOsrsMax * ((1 <<< chip.oversampTemperature.toNat) >>> 1 +
    (1 <<< chip.oversampPressure.toNat) >>> 1) +
    (if 0 < chip.oversampPressure then tSetupPressureMax else 0) + 15
  if total < 2147483648 then some (UInt8.ofNat (total / 16)) else none

/-- `delay` is `delay_msec`. -/
def bmp280GetForcedUncompPressureTemperature (delay : Env → UInt8 → Env) (raw : Int32 × Int32)
    (driver : Driver Env) : Option (Int8 × (Int32 × Int32) × Driver Env) :=
  if driver.attached then
    let value := (driver.bmp280.oversampTemperature <<< 5) +
      (driver.bmp280.oversampPressure <<< 2) + forcedMode
    let sent := busWrite bus driver ctrlMeasReg [value]
    -- the delay and the read follow whatever became of the write
    (bmp280ComputeWaitTime sent.2.bmp280).map fun wait =>
      let got := bmp280ReadUncompPressureTemperature bus
        { sent.2 with env := delay sent.2.env wait } raw
      (sent.1 + got.1, got.2.1, got.2.2)
  else some (nullPtr, raw, driver)

def bmp280WriteRegister (addr : UInt8) (data : List UInt8) (driver : Driver Env) :
    Int8 × Driver Env :=
  if driver.attached then busWrite bus driver addr data else (nullPtr, driver)

def bmp280ReadRegister (addr : UInt8) (data : List UInt8) (driver : Driver Env) :
    Int8 × List UInt8 × Driver Env :=
  if driver.attached then busRead bus driver addr data else (nullPtr, data, driver)

end Measurement

section Halves
variable (fail : Fail) (driver : Driver RegisterFile) (raw : Int32) (pair : Int32 × Int32)

/-- The read of the pressure alone does what the read of both does, failures included. -/
theorem pressure_read_alone (attached : driver.attached = true) :
    let both := bmp280ReadUncompPressureTemperature (registers fail) driver pair
    bmp280ReadUncompPressure (registers fail) raw driver = (both.1, both.2.1.1, both.2.2) := by
  simp only [bmp280ReadUncompPressure, readUncomp, bmp280ReadUncompPressureTemperature,
    attached, if_true]
  rfl

-- A failed read puts its bytes by their place in the buffer, where the two reads differ.
theorem temperature_read_alone (attached : driver.attached = true)
    (sound : driver.env.outcomes 0 = .done) :
    let both := bmp280ReadUncompPressureTemperature (registers fail) driver pair
    bmp280ReadUncompTemperature (registers fail) raw driver = (both.1, both.2.1.2, both.2.2) := by
  simp only [bmp280ReadUncompTemperature, readUncomp, bmp280ReadUncompPressureTemperature,
    attached, if_true, busRead, registers, sound]
  rfl

end Halves

end AirMonitor.Bmp280Api
