import AirMonitor.Bytes

/-!
The BMP280 driver of `bosch_bmp280.c`: register access through the caller's bus
functions, calibration read-out and the 32-bit integer compensation. Signed
32-bit arithmetic wraps and `>>` on it is arithmetic. Outcomes of transactions
belong to the environment behind `Bus`; the driver sees a status and a buffer.
-/

namespace AirMonitor.Bmp280
open Bytes

structure CalibParam where
  digT1 : UInt16
  digT2 : Int16
  digT3 : Int16
  digP1 : UInt16
  digP2 : Int16
  digP3 : Int16
  digP4 : Int16
  digP5 : Int16
  digP6 : Int16
  digP7 : Int16
  digP8 : Int16
  digP9 : Int16
  tFine : Int32
  deriving DecidableEq

/-- `struct bmp280_t` without its function pointers, which `Bus` stands for. -/
structure Bmp280T where
  calibParam : CalibParam
  chipId : UInt8
  devAddr : UInt8
  oversampTemperature : UInt8
  oversampPressure : UInt8
  deriving DecidableEq

def CalibParam.zero : CalibParam := ⟨0, 0, 0, 0, 0, 0, 0, 0, 0, 0, 0, 0, 0⟩

def Bmp280T.zero : Bmp280T := ⟨CalibParam.zero, 0, 0, 0, 0⟩

/-- One environment's I2C side, under `BMP280_I2C_bus_write` and
`BMP280_I2C_bus_read`. `read` hands back whether `i2c_master_cmd_begin`
reported `ESP_OK` and the caller's buffer as the transaction left it; nothing is
assumed of the bytes of a failed read. -/
structure Bus (Env : Type) where
  write : Env → UInt8 → UInt8 → List UInt8 → Bool × Env
  read : Env → UInt8 → UInt8 → List UInt8 → Bool × List UInt8 × Env
  readLength : ∀ env devAddr regAddr regData,
    (read env devAddr regAddr regData).2.1.length = regData.length
  -- the SDK's `FAIL`
  fail : Int8
  failNonzero : fail ≠ 0

/-- `p_bmp280` is `NULL` until `bmp280_init` points it at the one static structure. -/
structure Driver (Env : Type) where
  bmp280 : Bmp280T
  attached : Bool
  env : Env

/-! `bosch_bmp280.h` -/

def chipIdReadCount : Nat := 5
def chipIdReadSuccess : Int8 := 0
def chipIdReadFail : Int8 := -1
def success : Int8 := 0
def nullPtr : Int8 := -127
def outOfRange : Int8 := -2
def error : Int8 := -1
def chipId1 : UInt8 := 0x56
def chipId2 : UInt8 := 0x57
def chipId3 : UInt8 := 0x58
def i2cAddress1 : UInt8 := 0x76
def normalMode : UInt8 := 0x03
def softResetCode : UInt8 := 0xB6
def standbyTime1Ms : UInt8 := 0x00
def ultraHighResolutionOversampPressure : UInt8 := 0x05
def ultraHighResolutionOversampTemperature : UInt8 := 0x02
def filterCoeff16 : UInt8 := 0x04
def temperatureCalibDigT1LsbReg : UInt8 := 0x88
def chipIdReg : UInt8 := 0xD0
def rstReg : UInt8 := 0xE0
def ctrlMeasReg : UInt8 := 0xF4
def configReg : UInt8 := 0xF5
def pressureMsbReg : UInt8 := 0xF7
def calibDataSize : Nat := 24
def dataFrameSize : Nat := 6
def invalidData : UInt32 := 0

section Access
variable {Env : Type} (bus : Bus Env)

def busWrite (driver : Driver Env) (regAddr : UInt8) (regData : List UInt8) :
    Int8 × Driver Env :=
  let sent := bus.write driver.env driver.bmp280.devAddr regAddr regData
  (if sent.1 then success else bus.fail, { driver with env := sent.2 })

def busRead (driver : Driver Env) (regAddr : UInt8) (regData : List UInt8) :
    Int8 × List UInt8 × Driver Env :=
  let got := bus.read driver.env driver.bmp280.devAddr regAddr regData
  (if got.1 then success else bus.fail, got.2.1, { driver with env := got.2.2 })

def word (bytes : List UInt8) (lsb : Nat) : UInt16 := wordOf (byteAt bytes (lsb + 1)) (byteAt bytes lsb)

def decodeCalib (bytes : List UInt8) (tFine : Int32) : CalibParam where
  digT1 := word bytes 0
  digT2 := (word bytes 2).toInt16
  digT3 := (word bytes 4).toInt16
  digP1 := word bytes 6
  digP2 := (word bytes 8).toInt16
  digP3 := (word bytes 10).toInt16
  digP4 := (word bytes 12).toInt16
  digP5 := (word bytes 14).toInt16
  digP6 := (word bytes 16).toInt16
  digP7 := (word bytes 18).toInt16
  digP8 := (word bytes 20).toInt16
  digP9 := (word bytes 22).toInt16
  tFine := tFine

def bmp280GetCalibParam (driver : Driver Env) : Int8 × Driver Env :=
  if driver.attached then
    let got := busRead bus driver temperatureCalibDigT1LsbReg (List.replicate calibDataSize 0)
    -- the status of the read is not looked at before the buffer is decoded
    let calib := decodeCalib got.2.1 driver.bmp280.calibParam.tFine
    (got.1, { got.2.2 with bmp280 := { got.2.2.bmp280 with calibParam := calib } })
  else (nullPtr, driver)

def isChipId (value : UInt8) : Bool := value == chipId1 || value == chipId2 || value == chipId3

/-- The chip id loop: the count left, the last byte and the driver. A break keeps
the count, so only an exhausted loop leaves zero. -/
def readChipId : Nat → UInt8 → Driver Env → Nat × UInt8 × Driver Env
  | 0, value, driver => (0, value, driver)
  | count + 1, value, driver =>
      let got := busRead bus driver chipIdReg [value]
      let value := byteAt got.2.1 0
      if isChipId value then (count + 1, value, got.2.2)
      else readChipId count value got.2.2

def bmp280Init (driver : Driver Env) : Int8 × Driver Env :=
  let found := readChipId bus chipIdReadCount 0 { driver with attached := true }
  let driver := { found.2.2 with bmp280 := { found.2.2.bmp280 with chipId := found.2.1 } }
  let comRslt := if found.1 == 0 then chipIdReadFail else chipIdReadSuccess
  if comRslt == chipIdReadSuccess then
    let calib := bmp280GetCalibParam bus driver
    (comRslt + calib.1, calib.2)
  else (comRslt, driver)

/-- `BMP280_SET_BITSLICE` -/
def setBitslice (regvar mask pos val : UInt8) : UInt8 :=
  (regvar &&& ~~~mask) ||| ((val <<< pos) &&& mask)

/-- The read-modify-write shared by the four setters: the write and the shadow
field are reached only through a successful read. -/
def setField (reg mask pos value : UInt8) (shadow : Bmp280T → Bmp280T) (driver : Driver Env) :
    Int8 × Driver Env :=
  if driver.attached then
    let got := busRead bus driver reg [0]
    if got.1 == success then
      let sent := busWrite bus got.2.2 reg [setBitslice (byteAt got.2.1 0) mask pos value]
      (got.1 + sent.1, { sent.2 with bmp280 := shadow sent.2.bmp280 })
    else (got.1, got.2.2)
  else (nullPtr, driver)

def bmp280SetOversampTemperature (value : UInt8) : Driver Env → Int8 × Driver Env :=
  setField bus ctrlMeasReg 0xE0 5 value fun chip => { chip with oversampTemperature := value }

def bmp280SetOversampPressure (value : UInt8) : Driver Env → Int8 × Driver Env :=
  setField bus ctrlMeasReg 0x1C 2 value fun chip => { chip with oversampPressure := value }

def bmp280SetFilter (value : UInt8) : Driver Env → Int8 × Driver Env :=
  setField bus configReg 0x1C 2 value id

def bmp280SetStandbyDurn (value : UInt8) : Driver Env → Int8 × Driver Env :=
  setField bus configReg 0xE0 5 value id

def bmp280SetPowerMode (mode : UInt8) (driver : Driver Env) : Int8 × Driver Env :=
  if driver.attached then
    if mode ≤ normalMode then
      -- the shadow fields, not the register, supply the oversampling bits
      let value := (driver.bmp280.oversampTemperature <<< 5) +
        (driver.bmp280.oversampPressure <<< 2) + mode
      busWrite bus driver ctrlMeasReg [value]
    else (outOfRange, driver)
  else (nullPtr, driver)

def bmp280SetSoftRst (driver : Driver Env) : Int8 × Driver Env :=
  if driver.attached then busWrite bus driver rstReg [softResetCode] else (nullPtr, driver)

end Access

/-! Compensation -/

def rawValue (bytes : List UInt8) (msb : Nat) : Int32 :=
  (((byteAt bytes msb).toUInt32 <<< 12) ||| ((byteAt bytes (msb + 1)).toUInt32 <<< 4) |||
    ((byteAt bytes (msb + 2)).toUInt32 >>> 4)).toInt32

def rawPair (frame : List UInt8) : Int32 × Int32 := (rawValue frame 0, rawValue frame 3)

/-- `t_fine` of `bmp280_compensate_temperature_int32`. -/
def fineTemperature (calib : CalibParam) (raw : Int32) : Int32 :=
  let t1 := calib.digT1.toUInt32.toInt32
  let x1 := (((raw >>> 3) - (t1 <<< 1)) * calib.digT2.toInt32) >>> 11
  let x2 := (((((raw >>> 4) - t1) * ((raw >>> 4) - t1)) >>> 12) * calib.digT3.toInt32) >>> 14
  x1 + x2

/-- Temperature in hundredths of a degree, and the structure with its new `t_fine`. -/
def bmp280CompensateTemperatureInt32 (calib : CalibParam) (raw : Int32) : Int32 × CalibParam :=
  let tFine := fineTemperature calib raw
  ((tFine * 5 + 128) >>> 8, { calib with tFine := tFine })

/-- Pressure in pascal, from the `t_fine` of the temperature before it. -/
def bmp280CompensatePressureInt32 (calib : CalibParam) (raw : Int32) : UInt32 :=
  let x1 := (calib.tFine >>> 1) - 64000
  let x2 := (((x1 >>> 2) * (x1 >>> 2)) >>> 11) * calib.digP6.toInt32
  let x2 := x2 + ((x1 * calib.digP5.toInt32) <<< 1)
  let x2 := (x2 >>> 2) + (calib.digP4.toInt32 <<< 16)
  let x1 := (((calib.digP3.toInt32 * (((x1 >>> 2) * (x1 >>> 2)) >>> 13)) >>> 3) +
    ((calib.digP2.toInt32 * x1) >>> 1)) >>> 18
  let x1 := ((32768 + x1) * calib.digP1.toUInt32.toInt32) >>> 15
  let pressure := (((1048576 : Int32) - raw).toUInt32 - (x2 >>> 12).toUInt32) * 3125
  if x1 = 0 then invalidData
  else
    let pressure := if pressure < 0x80000000 then (pressure <<< 1) / x1.toUInt32
      else (pressure / x1.toUInt32) * 2
    let y1 := (calib.digP9.toInt32 *
      ((((pressure >>> 3) * (pressure >>> 3)) >>> 13).toInt32)) >>> 12
    let y2 := ((pressure >>> 2).toInt32 * calib.digP8.toInt32) >>> 13
    (pressure.toInt32 + ((y1 + y2 + calib.digP7.toInt32) >>> 4)).toUInt32

/-- Both compensations in the driver's order: temperature first, then pressure
with the `t_fine` it stored. -/
def compensate (calib : CalibParam) (raw : Int32 × Int32) : UInt32 × Int32 :=
  let temperature := bmp280CompensateTemperatureInt32 calib raw.2
  (bmp280CompensatePressureInt32 temperature.2 raw.1, temperature.1)

section Transfer
variable {Env : Type} (bus : Bus Env)

def bmp280ReadUncompPressureTemperature (driver : Driver Env) (raw : Int32 × Int32) :
    Int8 × (Int32 × Int32) × Driver Env :=
  if driver.attached then
    let got := busRead bus driver pressureMsbReg (List.replicate dataFrameSize 0)
    -- a failed read leaves zeros or part of a frame, and both outputs are assigned
    (got.1, rawPair got.2.1, got.2.2)
  else (nullPtr, raw, driver)

def bmp280ReadPressureTemperature (driver : Driver Env) (pressure : UInt32) (temp : Int32) :
    Int8 × UInt32 × Int32 × Driver Env :=
  if driver.attached then
    let got := bmp280ReadUncompPressureTemperature bus driver (0, 0)
    let chip := got.2.2.bmp280
    let temperature := bmp280CompensateTemperatureInt32 chip.calibParam got.2.1.2
    let driver := { got.2.2 with bmp280 := { chip with calibParam := temperature.2 } }
    (got.1, bmp280CompensatePressureInt32 temperature.2 got.2.1.1, temperature.1, driver)
  else (nullPtr, pressure, temp, driver)

end Transfer

end AirMonitor.Bmp280
