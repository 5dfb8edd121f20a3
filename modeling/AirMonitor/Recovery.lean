import AirMonitor.Publication

/-!
Termination of `read_pressure` on a steady sensor. The loop never runs
`pressure_init` again, so the coefficients it starts with are the ones every
frame is compensated with, and a reading that decides nothing comes back as long
as the sensor holds it.
-/

namespace AirMonitor.Recovery
open Bmp280 Pressure DriverFrame Sensor Publication

theorem credible_iff (pressure : UInt32) (temp : Int32) :
    credible pressure temp = true ↔ pressure ≠ 0 ∧ temp ≠ 0 ∧ temp ≠ 2323 := by
  simp [credible, and_assoc]

theorem in_band_iff (pressure : UInt32) :
    inBand pressure = true ↔ 90000 < pressure ∧ pressure < 110000 := by
  simp [inBand, and_comm]

theorem decides_iff (value : UInt32 × Int32) :
    decides value = true ↔ (value.1 ≠ 0 ∧ value.2 ≠ 0 ∧ value.2 ≠ 2323) ∧ 75000 ≤ value.1 := by
  simp [decides, credible_iff, UInt32.not_lt]

theorem band_nonzero (pressure : UInt32) (band : inBand pressure = true) : pressure ≠ 0 := by
  rintro rfl
  exact absurd band (by decide)

/-- Zero coefficients read zero degrees whatever the frame. -/
theorem zero_temperature (raw : Int32 × Int32) : (compensate CalibParam.zero raw).2 = 0 := by
  have fine : fineTemperature CalibParam.zero raw.2 = 0 := by
    have t2 : CalibParam.zero.digT2.toInt32 = 0 := rfl
    have t3 : CalibParam.zero.digT3.toInt32 = 0 := rfl
    simp only [fineTemperature, t2, t3, Int32.mul_zero]
    rfl
  simp only [compensate, bmp280CompensateTemperatureInt32, fine]
  rfl

theorem zero_undecided (raw : Int32 × Int32) : decides (compensate CalibParam.zero raw) = false := by
  rw [Bool.eq_false_iff]
  intro hit
  exact ((decides_iff _).mp hit).1.2.1 (zero_temperature raw)

section Script
variable (chip : Chip) (fail : Fail)

theorem reading_frame (driver : Driver ChipState) :
    reading (chip.bus fail) driver =
      compensate driver.bmp280.calibParam (rawPair (chip.frame driver.env.script)) := by
  rw [reading, transfer_frame]

theorem decided_pass (state : LoopState ChipState) (attached : state.driver.attached = true)
    (value : UInt32 × Int32) (read : reading (chip.bus fail) state.driver = value)
    (hit : decides value = true) :
    ∃ out, bodyOf (readPressurePass (chip.bus fail)) state = .inr out ∧
      out.data = state.data.store (published value) := by
  refine ⟨state.after (readPressurePass (chip.bus fail) state), ?_, ?_⟩
  · apply (body_leave _ _ _).mpr
    refine ⟨?_, rfl⟩
    rw [read_pressure_leaves (chip.bus fail) state attached, read, hit]
  · have stored := (pass_report (chip.bus fail) .readPressure state attached).2.1
    rw [read] at stored
    exact congrArg state.data.store stored

/-- An undecided reading starts another pass, with the coefficients and the
record as they were. -/
theorem undecided_pass (state : LoopState ChipState) (attached : state.driver.attached = true)
    (missed : decides (reading (chip.bus fail) state.driver) = false) :
    ∃ again, bodyOf (readPressurePass (chip.bus fail)) state = .inl again ∧
      Keeps state.driver again.driver ∧ again.data = state.data ∧
      again.driver.env.script =
        chip.afterPass state.driver.bmp280.calibParam state.driver.env.script := by
  refine ⟨state.after (readPressurePass (chip.bus fail) state), ?_, ?_, ?_, ?_⟩
  · apply (body_again _ _ _).mpr
    refine ⟨?_, rfl⟩
    rw [read_pressure_leaves (chip.bus fail) state attached, missed]
  · exact pass_keeps (chip.bus fail) .readPressure state attached
  · have stored := (pass_report (chip.bus fail) .readPressure state attached).2.1
    rw [undecided_unpublished _ missed] at stored
    exact congrArg state.data.store stored
  · exact pass_script chip fail state attached missed

/-- With coefficients under which nothing the sensor delivers decides, the loop
never ends: no pass loads other coefficients. -/
theorem undecided_forever (start : LoopState ChipState) (attached : start.driver.attached = true)
    (missed : ∀ driver, trim driver.bmp280.calibParam = trim start.driver.bmp280.calibParam →
      driver.env.script <:+ start.driver.env.script →
      decides (reading (chip.bus fail) driver) = false) :
    Loop.Diverges (bodyOf (readPressurePass (chip.bus fail))) start := by
  -- the invariant: coefficients as at the start, and a rest of the start's script
  apply Loop.diverges_of_invariant (bodyOf (readPressurePass (chip.bus fail)))
    (fun state => Keeps start.driver state.driver ∧
      state.driver.env.script <:+ start.driver.env.script) _ start ⟨keeps_refl _, List.suffix_refl _⟩
  rintro state ⟨kept, suffix⟩
  obtain ⟨again, pass, keeps, _, rest⟩ := undecided_pass chip fail state
    (kept.attached.trans attached) (missed state.driver kept.coefficients suffix)
  have shorter := after_pass_suffix chip state.driver.bmp280.calibParam state.driver.env.script
  rw [← rest] at shorter
  exact ⟨again, pass, keeps_trans _ _ _ kept keeps,
    (shorter.trans (List.tail_suffix _)).trans suffix⟩

/-- The loop from any pass: it ends on the first of the readings to decide. -/
theorem first_returns (count : Nat) (value : UInt32 × Int32) (state : LoopState ChipState)
    (attached : state.driver.attached = true)
    (found : (chip.readings state.driver.bmp280.calibParam count state.driver.env.script).find?
      decides = some value) :
    ∃ out, Loop.Returns (bodyOf (readPressurePass (chip.bus fail))) state out ∧
      out.data = state.data.store (published value) := by
  induction count generalizing state with
  | zero => simp [Chip.readings] at found
  | succ count ih =>
      rw [Chip.readings, ← reading_frame chip fail] at found
      cases hit : decides (reading (chip.bus fail) state.driver) with
      | true =>
          rw [List.find?_cons_of_pos hit, Option.some.injEq] at found
          obtain ⟨out, left, record⟩ := decided_pass chip fail state attached value found
            (by rwa [found] at hit)
          exact ⟨out, Loop.returns_leave _ _ _ left, record⟩
      | false =>
          rw [List.find?_cons_of_neg (by simp [hit])] at found
          obtain ⟨again, pass, keeps, same, rest⟩ := undecided_pass chip fail state attached hit
          rw [← rest, readings_congr chip _ _ keeps.coefficients.symm] at found
          obtain ⟨out, returned, record⟩ := ih again (keeps.attached.trans attached) found
          rw [same] at record
          exact ⟨out, (Loop.returns_again _ _ _ pass out).mpr returned, record⟩

/-- When none of the readings up to the end of the script and the one after it
decides, none ever does. -/
theorem none_returns (count : Nat) (state : LoopState ChipState)
    (attached : state.driver.attached = true) (enough : state.driver.env.script.length < count)
    (missed : (chip.readings state.driver.bmp280.calibParam count state.driver.env.script).find?
      decides = none)
    (out : LoopState ChipState) :
    ¬ Loop.Returns (bodyOf (readPressurePass (chip.bus fail))) state out := by
  induction count generalizing state with
  | zero => omega
  | succ count ih =>
      rw [Chip.readings, ← reading_frame chip fail, List.find?_cons] at missed
      cases hit : decides (reading (chip.bus fail) state.driver) with
      | true => simp [hit] at missed
      | false =>
          rw [hit] at missed
          by_cases spent : state.driver.env.script = []
          · -- the same frame comes back for good
            apply Loop.not_returns_of_diverges
            apply undecided_forever chip fail state attached
            intro other same suffix
            rw [spent] at suffix
            rw [reading_frame, spent] at hit
            rw [reading_frame, List.suffix_nil.mp suffix, compensate_congr _ _ same]
            exact hit
          · obtain ⟨again, pass, keeps, _, rest⟩ := undecided_pass chip fail state attached hit
            rw [← rest, readings_congr chip _ _ keeps.coefficients.symm] at missed
            have shorter := (after_pass_suffix chip state.driver.bmp280.calibParam
              state.driver.env.script).length_le
            have some := List.length_pos_iff.mpr spent
            rw [← rest, List.length_tail] at shorter
            rw [Loop.returns_again _ _ _ pass out]
            exact ih again (keeps.attached.trans attached) (by omega) missed

/-- The first reading to decide, of those while the script lasts and the one that
the chip holds for good. -/
def firstDeciding (calib : CalibParam) (script : List Outcome) : Option (UInt32 × Int32) :=
  (chip.readings calib (script.length + 1) script).find? decides

/-- The call returns and leaves the pressure of the sample the chip holds for good. -/
def Recovers (driver : Driver ChipState) (data : ClimateData) : Prop :=
  ∃ out, ReadPressure (chip.bus fail) driver data out ∧
    out.data.pressure = some (hectopascal chip.reading.1)

/-- With the coefficients that `pressure_init` leaves, some reading decides, and
the first one that does leaves the pressure wanted. -/
def Recoverable (prior : CalibParam) (script : List Outcome) (data : ClimateData) : Prop :=
  ∃ value, firstDeciding chip (chip.loads prior script) (afterInit script) = some value ∧
    (data.store (published value)).pressure = some (hectopascal chip.reading.1)

/-- The readings come to the sample that the chip holds for good. -/
theorem lasting_reading (calib : CalibParam) (count : Nat) (script : List Outcome)
    (enough : script.length < count) :
    compensate calib (rawPair (chip.frame [])) ∈ chip.readings calib count script := by
  induction count generalizing script with
  | zero => omega
  | succ count ih =>
      rw [Chip.readings]
      by_cases spent : script = []
      · rw [spent]
        exact List.mem_cons_self
      · have shorter := (after_pass_suffix chip calib script).length_le
        have some := List.length_pos_iff.mpr spent
        rw [List.length_tail] at shorter
        exact List.mem_cons_of_mem _ (ih _ (by omega))

/-- With the chip's own coefficients loaded, only a failed transfer can spoil it. -/
theorem own_recoverable (prior : CalibParam) (script : List Outcome) (data : ClimateData)
    (own : trim (chip.loads prior script) = trim chip.calib) (fine : publishes chip.reading = true)
    (harmless : ∀ value ∈ chip.readings chip.calib ((afterInit script).length + 1) (afterInit script),
      decides value = true → (data.store (published value)).pressure =
        some (hectopascal chip.reading.1)) :
    Recoverable chip prior script data := by
  have lasting := lasting_reading chip chip.calib _ (afterInit script) (Nat.lt_succ_self _)
  rw [Recoverable, firstDeciding, readings_congr chip _ _ own]
  cases found : (chip.readings chip.calib ((afterInit script).length + 1) (afterInit script)).find?
      decides with
  | none => exact absurd (publishes_decides _ fine) (List.find?_eq_none.mp found _ lasting)
  | some value =>
      exact ⟨value, rfl, harmless value (List.mem_of_find?_eq_some found) (List.find?_some found)⟩

theorem entry_first (driver : Driver ChipState) (data : ClimateData) :
    firstDeciding chip (entry (chip.bus fail) driver data).driver.bmp280.calibParam
        (entry (chip.bus fail) driver data).driver.env.script =
      firstDeciding chip (chip.loads driver.bmp280.calibParam driver.env.script)
        (afterInit driver.env.script) := by
  obtain ⟨loaded, rest⟩ := init_loads chip fail driver
  have same : trim (entry (chip.bus fail) driver data).driver.bmp280.calibParam =
      trim (chip.loads driver.bmp280.calibParam driver.env.script) := by
    rw [← loaded, trim_trim, entry]
  have script : (entry (chip.bus fail) driver data).driver.env.script = afterInit driver.env.script :=
    rest
  rw [firstDeciding, firstDeciding, script, readings_congr chip _ _ same]

end Script

theorem zero_never_returns (chip : Chip) (fail : Fail) (driver : Driver ChipState)
    (data : ClimateData)
    (zeros : trim (pressureInit (chip.bus fail) driver).bmp280.calibParam = CalibParam.zero)
    (out : LoopState ChipState) : ¬ ReadPressure (chip.bus fail) driver data out := by
  apply Loop.not_returns_of_diverges
  apply undecided_forever chip fail _ (entry_attached (chip.bus fail) driver data)
  intro other same _
  have loaded : trim other.bmp280.calibParam = trim CalibParam.zero := same.trans zeros
  rw [reading, compensate_congr _ _ loaded]
  exact zero_undecided _

/-- Whatever the structure held before the call and however its transactions
fail. -/
theorem recovers_iff (chip : Chip) (fail : Fail) (driver : Driver ChipState) (data : ClimateData) :
    Recovers chip fail driver data ↔
      Recoverable chip driver.bmp280.calibParam driver.env.script data := by
  have attached := entry_attached (chip.bus fail) driver data
  have first := entry_first chip fail driver data
  constructor
  · rintro ⟨out, returned, pressure⟩
    cases found : firstDeciding chip (entry (chip.bus fail) driver data).driver.bmp280.calibParam
        (entry (chip.bus fail) driver data).driver.env.script with
    | none => exact absurd returned (none_returns chip fail _ _ attached (Nat.lt_succ_self _) found out)
    | some value =>
        obtain ⟨last, again, record⟩ := first_returns chip fail _ value _ attached found
        rw [Loop.returns_unique _ _ _ _ returned again, record] at pressure
        exact ⟨value, first.symm.trans found, pressure⟩
  · rintro ⟨value, found, pressure⟩
    obtain ⟨out, returned, record⟩ :=
      first_returns chip fail _ value _ attached (first.trans found)
    exact ⟨out, returned, by rw [record]; exact pressure⟩

/-- A try at the chip id fails, then three steps of the setup, one of which reaches
the register all the same, then a transfer that reads 483.55 hPa, and two steps of
the reset after it. -/
def roughScript : List Outcome :=
  [cutAfter 0 [], .done, .done, .failed (fun _ => none) false, cutAfter 0 [], .done, .done,
    cutAfter 0 [], .done, .failed (fun _ => none) true,
    cutAfter 6 [0xB0, 0x00, 0x00, 0x7E, 0xED, 0x00], cutAfter 0 [], .done, cutAfter 0 []]

/-- Left by a call whose calibration read broke off after four bytes. -/
def roughDriver : Driver ChipState where
  bmp280 := { Bmp280T.zero with
    calibParam := { CalibParam.zero with digT1 := 27504, digT2 := 26435 } }
  attached := true
  env := ⟨roughScript, 0, 0⟩

theorem rough_readings :
    (steadyChip chip58 referenceCalib referenceFrame).readings
        (steadyChip chip58 referenceCalib referenceFrame).calib
        ((afterInit roughScript).length + 1) (afterInit roughScript) =
      (48355, 2508) :: List.replicate 4 (100656, 2508) := by
  decide +kernel

theorem recovers_iff_rough :
    Recovers (steadyChip chip58 referenceCalib referenceFrame) failOne roughDriver .indeterminate := by
  apply (recovers_iff _ failOne roughDriver .indeterminate).mpr
  apply own_recoverable _ _ _ _ (by decide +kernel) (by decide +kernel)
  intro value member hit
  rw [roughDriver, rough_readings] at member
  rcases List.mem_cons.mp member with rfl | steady
  · exact absurd hit (by decide)
  · rw [List.eq_of_mem_replicate steady]
    decide +kernel

/-- After boot the chip id is read, the calibration read fails, and everything
succeeds from then on: the coefficients stay zero and the call never returns. -/
theorem lost_calibration_hangs :
    inBand (compensate referenceCalib (rawPair referenceFrame)).1 = true ∧
      (compensate referenceCalib (rawPair referenceFrame)).2 ≠ 0 ∧
      (compensate referenceCalib (rawPair referenceFrame)).2 ≠ 2323 ∧
      rawPair referenceFrame ≠ resetRaw ∧
      ¬ Recovers (steadyChip chip58 referenceCalib referenceFrame) failOne
        (boot [.done, .failed (fun _ => none) false]) .indeterminate := by
  refine ⟨by decide +kernel, by decide +kernel, by decide +kernel, by decide, ?_⟩
  rintro ⟨out, returned, _⟩
  apply zero_never_returns _ _ _ _ _ out returned
  exact (init_loads (steadyChip chip58 referenceCalib referenceFrame) _ _).1

/-! A healthy bus: every transaction succeeds, resets included, and the chip keeps
returning one sample. -/

/-- The call returns with the in-band pressure stored, or else the old one kept. -/
def Settles (chip : Chip) (fail : Fail) (driver : Driver ChipState) (data : ClimateData) : Prop :=
  ∃ out, ReadPressure (chip.bus fail) driver data out ∧
    out.data.pressure =
      if 90000 < chip.reading.1 ∧ chip.reading.1 < 110000
        then some (hectopascal chip.reading.1) else data.pressure

theorem healthy_reading (chipId : ChipId) (calib : CalibParam) (frame : List UInt8) (fail : Fail)
    (driver : Driver ChipState) (loaded : trim driver.bmp280.calibParam = trim calib)
    (healthy : driver.env.script = []) :
    reading ((steadyChip chipId calib frame).bus fail) driver = compensate calib (rawPair frame) := by
  rw [reading_frame, healthy, steady_raw]
  exact compensate_congr _ _ loaded _

theorem healthy_never_returns (chipId : ChipId) (calib : CalibParam) (frame : List UInt8) (fail : Fail)
    (driver : Driver ChipState) (data : ClimateData) (healthy : driver.env.script = [])
    (missed : decides (compensate calib (rawPair frame)) = false) (out : LoopState ChipState) :
    ¬ ReadPressure ((steadyChip chipId calib frame).bus fail) driver data out := by
  have start := fault_free_entry (steadyChip chipId calib frame) fail driver data healthy
  have attached := entry_attached ((steadyChip chipId calib frame).bus fail) driver data
  apply Loop.not_returns_of_diverges
  apply undecided_forever _ fail _ attached
  intro other same suffix
  have script : other.env.script = [] := by
    rw [start.2] at suffix
    exact List.suffix_nil.mp suffix
  have loaded := (same.trans start.1).trans (steady_trim chipId calib frame)
  rw [healthy_reading chipId calib frame fail other loaded script]
  exact missed

theorem settles_iff (chipId : ChipId) (calib : CalibParam) (frame : List UInt8) (fail : Fail)
    (driver : Driver ChipState) (data : ClimateData) (healthy : driver.env.script = []) :
    Settles (steadyChip chipId calib frame) fail driver data ↔
      75000 ≤ (compensate calib (rawPair frame)).1 ∧
      (compensate calib (rawPair frame)).2 ≠ 0 ∧ (compensate calib (rawPair frame)).2 ≠ 2323 := by
  have value := steady_first chipId calib frame
  have start := fault_free_entry (steadyChip chipId calib frame) fail driver data healthy
  have attached := entry_attached ((steadyChip chipId calib frame).bus fail) driver data
  have loaded :
      trim (entry ((steadyChip chipId calib frame).bus fail) driver data).driver.bmp280.calibParam =
        trim calib := start.1.trans (steady_trim chipId calib frame)
  have read := healthy_reading chipId calib frame fail _ loaded start.2
  unfold Settles
  rw [value]
  constructor
  · rintro ⟨out, returned, _⟩
    by_contra missed
    have undecided : decides (compensate calib (rawPair frame)) = false := by
      rw [Bool.eq_false_iff]
      intro hit
      obtain ⟨⟨_, nonzero, unlike⟩, enough⟩ := (decides_iff _).mp hit
      exact missed ⟨enough, nonzero, unlike⟩
    exact healthy_never_returns chipId calib frame fail driver data healthy undecided out returned
  · rintro ⟨enough, nonzero, unlike⟩
    have some_pressure : (compensate calib (rawPair frame)).1 ≠ 0 := by
      intro zero
      rw [zero] at enough
      exact absurd enough (by decide)
    have hit := (decides_iff _).mpr ⟨⟨some_pressure, nonzero, unlike⟩, enough⟩
    obtain ⟨out, left, record⟩ := decided_pass _ fail _ attached _ read hit
    refine ⟨out, Loop.returns_leave _ _ _ left, ?_⟩
    rw [record, published, publishes, (credible_iff _ _).mpr ⟨some_pressure, nonzero, unlike⟩,
      Bool.true_and]
    by_cases band : 90000 < (compensate calib (rawPair frame)).1 ∧
        (compensate calib (rawPair frame)).1 < 110000
    · rw [if_pos band, if_pos ((in_band_iff _).mpr band)]
      rfl
    · rw [if_neg band, if_neg (fun inside => band ((in_band_iff _).mp inside))]
      rfl

theorem settles_iff_reference :
    Settles (steadyChip chip58 referenceCalib referenceFrame) failOne (boot []) .indeterminate ↔
      75000 ≤ (compensate referenceCalib (rawPair referenceFrame)).1 ∧
      (compensate referenceCalib (rawPair referenceFrame)).2 ≠ 0 ∧
      (compensate referenceCalib (rawPair referenceFrame)).2 ≠ 2323 :=
  settles_iff chip58 referenceCalib referenceFrame failOne (boot []) .indeterminate rfl

/-- 1003.70 hPa at exactly 23.23 degrees, on a healthy bus. -/
def mildFrame : List UInt8 := [0x65, 0x5A, 0xC0, 0x7D, 0x7B, 0x00]

theorem mild_day_hangs :
    compensate referenceCalib (rawPair mildFrame) = (100370, 2323) ∧ rawPair mildFrame ≠ resetRaw ∧
      ¬ Settles (steadyChip chip58 referenceCalib mildFrame) failOne (boot []) .indeterminate := by
  have value : compensate referenceCalib (rawPair mildFrame) = (100370, 2323) := by decide +kernel
  refine ⟨value, by decide, ?_⟩
  rintro ⟨out, returned, _⟩
  exact healthy_never_returns chip58 referenceCalib mildFrame _ (boot []) .indeterminate rfl
    (by rw [value]; rfl) out returned

end AirMonitor.Recovery
