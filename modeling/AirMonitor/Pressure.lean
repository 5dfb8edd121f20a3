import AirMonitor.ClimateData
import AirMonitor.Bmp280
import AirMonitor.Loop

/-!
`pressure.c`. Both acquisition loops are given
by one pass of their body; `read_pressure` leaves its loop by `break`,
`pressure_task` never does. Delays and log lines have no state to change.
-/

namespace AirMonitor.Pressure
open Bmp280

def hectopascal (pressure : UInt32) : ℚ := (pressure.toNat : ℚ) / 100

section Setup
variable {Env : Type} (bus : Bus Env)

/-- The five calls and the statuses that `logError` prints. -/
def pressureSetup (driver : Driver Env) : List Int8 × Driver Env :=
  let mode := bmp280SetPowerMode bus normalMode driver
  let press := bmp280SetOversampPressure bus ultraHighResolutionOversampPressure mode.2
  let temp := bmp280SetOversampTemperature bus ultraHighResolutionOversampTemperature press.2
  let standby := bmp280SetStandbyDurn bus standbyTime1Ms temp.2
  let filter := bmp280SetFilter bus filterCoeff16 standby.2
  ([mode.1, press.1, temp.1, standby.1, filter.1], filter.2)

def pressureInit (driver : Driver Env) : Driver Env :=
  let driver := { driver with bmp280 := { driver.bmp280 with devAddr := i2cAddress1 } }
  (pressureSetup bus (bmp280Init bus driver).2).2

def pressureReset (driver : Driver Env) : Driver Env :=
  (pressureSetup bus (bmp280SetSoftRst bus driver).2).2

end Setup

structure LoopState (Env : Type) where
  driver : Driver Env
  pressure : UInt32
  temp : Int32
  data : ClimateData

/-- What one pass of a loop body did: the status of its data transfer, the value
it assigned to `data->pressure` if it did, whether it called `pressure_reset`,
whether it ended in `break`, and the driver and locals it left. -/
structure Pass (Env : Type) where
  res : Int8
  stored : Option ℚ
  reset : Bool
  leaves : Bool
  driver : Driver Env
  pressure : UInt32
  temp : Int32

/-- The reading test at the head of both loops. -/
def credible (pressure : UInt32) (temp : Int32) : Bool :=
  pressure != 0 && temp != 0 && temp != 2323

/-- The range test in front of the assignment in both loops. -/
def inBand (pressure : UInt32) : Bool := pressure < 110000 && pressure > 90000

def resetRaw : Int32 × Int32 := (524288, 524288)

section Loops
variable {Env : Type} (bus : Bus Env)

/-- The `else` branch of both loops: a second raw read tells whether to reset. -/
def recheck (driver : Driver Env) : Bool × Driver Env :=
  let again := bmp280ReadUncompPressureTemperature bus driver (0, 0)
  let raw := again.2.1
  if raw.1 = 524288 ∧ raw.2 = 524288 then (true, pressureReset bus again.2.2)
  else (false, again.2.2)

def readPressurePass (state : LoopState Env) : Pass Env :=
  let got := bmp280ReadPressureTemperature bus state.driver state.pressure state.temp
  let pressure := got.2.1
  let temp := got.2.2.1
  let driver := got.2.2.2
  if credible pressure temp then
    -- only this loop resets on a low reading
    if pressure < 75000 then
      ⟨got.1, none, true, false, pressureReset bus driver, pressure, temp⟩
    else
      -- `break` stands after the range test, not inside it
      ⟨got.1, if inBand pressure then some (hectopascal pressure) else none, false, true,
        driver, pressure, temp⟩
  else
    let checked := recheck bus driver
    ⟨got.1, none, checked.1, false, checked.2, pressure, temp⟩

def pressureTaskPass (state : LoopState Env) : Pass Env :=
  let got := bmp280ReadPressureTemperature bus state.driver state.pressure state.temp
  let pressure := got.2.1
  let temp := got.2.2.1
  let driver := got.2.2.2
  if credible pressure temp then
    ⟨got.1, if inBand pressure then some (hectopascal pressure) else none, false, false,
      driver, pressure, temp⟩
  else
    let checked := recheck bus driver
    ⟨got.1, none, checked.1, false, checked.2, pressure, temp⟩

def LoopState.after (state : LoopState Env) (pass : Pass Env) : LoopState Env :=
  ⟨pass.driver, pass.pressure, pass.temp, state.data.store pass.stored⟩

/-- A loop body from its pass: `break` leaves, anything else falls through. -/
def bodyOf (pass : LoopState Env → Pass Env) (state : LoopState Env) :
    LoopState Env ⊕ LoopState Env :=
  if (pass state).leaves then .inr (state.after (pass state)) else .inl (state.after (pass state))

/-- Both functions run `pressure_init` before their loop, on zeroed locals. -/
def entry (driver : Driver Env) (data : ClimateData) : LoopState Env :=
  ⟨pressureInit bus driver, 0, 0, data⟩

def ReadPressure (driver : Driver Env) (data : ClimateData) (out : LoopState Env) : Prop :=
  Loop.Returns (bodyOf (readPressurePass bus)) (entry bus driver data) out

end Loops

end AirMonitor.Pressure
