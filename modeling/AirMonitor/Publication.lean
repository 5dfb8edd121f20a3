import AirMonitor.Sensor

/-!
What the two loops write to `data->pressure`. Neither looks at the status of its
data transfer nor, before writing, at the raw sample; the only filter is the
compensated reading. So a bad frame stays out exactly when the coefficients in
memory turn it into a reading that the numeric tests refuse.
-/

namespace AirMonitor.Publication
open Bytes Bmp280 Pressure DriverFrame Sensor

section Runs
variable {Env : Type} (bus : Bus Env)

/-- The states at the head of the passes of one call of either function. -/
def Visits (task : Task) (driver : Driver Env) (data : ClimateData) (state : LoopState Env) : Prop :=
  Loop.Reaches (bodyOf (passOf bus task)) (entry bus driver data) state

theorem visits_attached (task : Task) (driver : Driver Env) (data : ClimateData)
    (state : LoopState Env) (visited : Visits bus task driver data state) :
    state.driver.attached = true :=
  have start := entry_attached bus driver data
  (run_keeps bus task _ state start visited).attached.trans start

theorem visits_coefficients (task : Task) (driver : Driver Env) (data : ClimateData)
    (state : LoopState Env) (visited : Visits bus task driver data state) :
    trim state.driver.bmp280.calibParam = trim (entry bus driver data).driver.bmp280.calibParam :=
  (run_keeps bus task _ state (entry_attached bus driver data) visited).coefficients

def Silent (task : Task) (state : LoopState Env) : Prop :=
  (passOf bus task state).stored = none ∧
    (state.after (passOf bus task state)).data.pressure = state.data.pressure

theorem silent_iff (task : Task) (state : LoopState Env) (attached : state.driver.attached = true) :
    Silent bus task state ↔ publishes (reading bus state.driver) = false := by
  have stored := (pass_report bus task state attached).2.1
  constructor
  · intro silent
    by_contra hit
    have written : published (reading bus state.driver) ≠ none :=
      (published_isSome _).mpr (by simpa using hit)
    exact written (stored.symm.trans silent.1)
  · intro refused
    have nothing : (passOf bus task state).stored = none := by
      rw [stored, published, refused]
      rfl
    exact ⟨nothing, by rw [LoopState.after, nothing]; rfl⟩

theorem status_nonzero_iff (task : Task) (state : LoopState Env)
    (attached : state.driver.attached = true) :
    (passOf bus task state).res ≠ 0 ↔ (transfer bus state.driver).1 = false := by
  rw [(pass_report bus task state attached).1]
  by_cases ok : (transfer bus state.driver).1 = true
  · simp [ok, success]
  · simp [ok, bus.failNonzero]

/-- In every pass whose data transfer did not return 0 the record is left alone. -/
def FailedUnpublished (task : Task) (driver : Driver Env) (data : ClimateData) : Prop :=
  ∀ state, Visits bus task driver data state →
    (passOf bus task state).res ≠ 0 → Silent bus task state

/-- The bytes a failed transfer left never compensate to a publishable reading. -/
def FailedRefused (task : Task) (driver : Driver Env) (data : ClimateData) : Prop :=
  ∀ state, Visits bus task driver data state → (transfer bus state.driver).1 = false →
    publishes (compensate state.driver.bmp280.calibParam (rawPair (transfer bus state.driver).2.1)) =
      false

theorem failed_unpublished_iff (task : Task) (driver : Driver Env) (data : ClimateData) :
    FailedUnpublished bus task driver data ↔ FailedRefused bus task driver data := by
  constructor
  · intro quiet state visited failed
    have attached := visits_attached bus task driver data state visited
    have silent := quiet state visited ((status_nonzero_iff bus task state attached).mpr failed)
    exact (silent_iff bus task state attached).mp silent
  · intro refused state visited nonzero
    have attached := visits_attached bus task driver data state visited
    have failed := (status_nonzero_iff bus task state attached).mp nonzero
    exact (silent_iff bus task state attached).mpr (refused state visited failed)

def rawSample (state : LoopState Env) : Int32 × Int32 := rawPair (transfer bus state.driver).2.1

def ResetUnpublished (task : Task) (driver : Driver Env) (data : ClimateData) : Prop :=
  ∀ state, Visits bus task driver data state → rawSample bus state = resetRaw →
    Silent bus task state

theorem reset_unpublished (task : Task) (driver : Driver Env) (data : ClimateData)
    (calib : CalibParam)
    (loaded : trim (entry bus driver data).driver.bmp280.calibParam = trim calib)
    (refused : publishes (compensate calib resetRaw) = false) :
    ResetUnpublished bus task driver data := by
  intro state visited raw
  have attached := visits_attached bus task driver data state visited
  have same := (visits_coefficients bus task driver data state visited).trans loaded
  apply (silent_iff bus task state attached).mpr
  have value : reading bus state.driver = compensate calib resetRaw := by
    rw [reading, ← raw, rawSample]
    exact compensate_congr _ _ same _
  rw [value]
  exact refused

end Runs

/-- The compensation example of the sensor's data sheet. -/
def referenceCalib : CalibParam :=
  ⟨27504, 26435, -1000, 36477, -10685, 3024, 2855, 140, -7, 15500, -14600, 6000, 0⟩

example : compensate referenceCalib (415148, 519888) = (100656, 2508) := by decide +kernel

def failOne : Fail := ⟨1, by decide⟩

def chip58 : ChipId := ⟨chipId3, rfl⟩

def referenceFrame : List UInt8 := [0x65, 0x5A, 0xC0, 0x7E, 0xED, 0x00]

/-- A transfer that fails after the first bytes of a frame. -/
def cutAfter (count : Nat) (frame : List UInt8) : Outcome :=
  .failed (fun i => if i < count then some (byteAt frame i) else none) false

/-- The two low temperature bytes are lost in the first data transfer, which
fails: its status is `FAIL` and 1004.73 hPa is stored all the same. -/
theorem lost_temperature_published :
    let bus := (steadyChip chip58 referenceCalib referenceFrame).bus failOne
    let driver := boot (List.replicate 11 .done ++ [cutAfter 4 referenceFrame])
    ¬ FailedUnpublished bus .readPressure driver .indeterminate ∧
      ¬ FailedUnpublished bus .pressureTask driver .indeterminate := by
  constructor
  · intro quiet
    exact absurd (quiet _ .start (by decide +kernel)).1 (by decide +kernel)
  · intro quiet
    exact absurd (quiet _ .start (by decide +kernel)).1 (by decide +kernel)

def resetFrame : List UInt8 := [0x80, 0x00, 0x00, 0x80, 0x00, 0x00]

/-- A fault-free start of either function with these coefficients in the chip. -/
theorem fault_free_entry (chip : Chip) (fail : Fail) (driver : Driver ChipState) (data : ClimateData)
    (healthy : driver.env.script = []) :
    trim (entry (chip.bus fail) driver data).driver.bmp280.calibParam = trim chip.calib ∧
      (entry (chip.bus fail) driver data).driver.env.script = [] := by
  have loaded := init_loads chip fail driver
  simp only [healthy] at loaded
  exact loaded

theorem fault_free_raw (chip : Chip) (fail : Fail) (driver : Driver ChipState) (data : ClimateData)
    (healthy : driver.env.script = []) :
    rawSample (chip.bus fail) (entry (chip.bus fail) driver data) = rawPair (chip.frame []) := by
  have start := fault_free_entry chip fail driver data healthy
  rw [rawSample, transfer_frame chip fail, start.2]

/-- Whatever the environment does, a pass on the reset sample writes nothing,
exactly for the coefficients that turn the reset sample into a refused reading. -/
theorem reset_unpublished_iff (calib : CalibParam) :
    (∀ (Env : Type) (bus : Bus Env) (task : Task) (driver : Driver Env) (data : ClimateData),
      trim (entry bus driver data).driver.bmp280.calibParam = trim calib →
      ResetUnpublished bus task driver data) ↔
    publishes (compensate calib resetRaw) = false := by
  constructor
  · intro quiet
    -- the chip that holds these coefficients and the reset sample shows the pass
    have fail : Fail := failOne
    generalize made : steadyChip chip58 calib resetFrame = chip
    have stored : trim chip.calib = trim calib := by
      rw [← made]
      exact steady_trim chip58 calib resetFrame
    have holds : rawPair (chip.frame []) = resetRaw := by
      rw [← made, steady_raw]
      decide
    have loaded := (fault_free_entry chip fail (boot []) .indeterminate rfl).1.trans stored
    have raw : rawSample (chip.bus fail) (entry (chip.bus fail) (boot []) .indeterminate) = resetRaw :=
      (fault_free_raw chip fail (boot []) .indeterminate rfl).trans holds
    have attached := entry_attached (chip.bus fail) (boot []) .indeterminate
    have silent := quiet ChipState (chip.bus fail) .readPressure (boot []) .indeterminate loaded
      (entry (chip.bus fail) (boot []) .indeterminate) .start raw
    have refused := (silent_iff (chip.bus fail) .readPressure _ attached).mp silent
    rw [reading, ← rawSample, raw, compensate_congr _ calib loaded] at refused
    exact refused
  · intro refused Env bus task driver data loaded
    exact reset_unpublished bus task driver data calib loaded refused

/-- With `dig_P1` at 30500 the reset sample reads 982.12 hPa at 26.46 degrees. -/
theorem reset_sample_published :
    let calib := { referenceCalib with digP1 := 30500 }
    let bus := (steadyChip chip58 calib resetFrame).bus failOne
    ¬ ResetUnpublished bus .readPressure (boot []) .indeterminate ∧
      ¬ ResetUnpublished bus .pressureTask (boot []) .indeterminate := by
  constructor
  · intro quiet
    exact absurd (quiet _ .start (by decide +kernel)).1 (by decide +kernel)
  · intro quiet
    exact absurd (quiet _ .start (by decide +kernel)).1 (by decide +kernel)

end AirMonitor.Publication
