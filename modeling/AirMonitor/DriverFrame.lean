import AirMonitor.Pressure

/-!
What calls into the driver leave alone. Only `bmp280_get_calib_param` loads
coefficients; setup, reset and data transfers keep them, so a loop compensates
every frame with the coefficients its `pressure_init` left in memory.
-/

namespace AirMonitor.DriverFrame
open Bmp280 Pressure

variable {Env : Type} (bus : Bus Env)

/-- The coefficients without the scratch field `t_fine`. -/
def trim (calib : CalibParam) : CalibParam := { calib with tFine := 0 }

theorem trim_trim (calib : CalibParam) : trim (trim calib) = trim calib := rfl

theorem compensate_trim (calib : CalibParam) (raw : Int32 × Int32) :
    compensate (trim calib) raw = compensate calib raw := rfl

theorem compensate_congr (left right : CalibParam) (same : trim left = trim right)
    (raw : Int32 × Int32) : compensate left raw = compensate right raw := by
  rw [← compensate_trim left, same, compensate_trim]

structure Keeps (before after : Driver Env) : Prop where
  attached : after.attached = before.attached
  coefficients : trim after.bmp280.calibParam = trim before.bmp280.calibParam

theorem keeps_refl (driver : Driver Env) : Keeps driver driver := ⟨rfl, rfl⟩

theorem keeps_trans (first second third : Driver Env)
    (front : Keeps first second) (back : Keeps second third) : Keeps first third :=
  ⟨back.attached.trans front.attached, back.coefficients.trans front.coefficients⟩

theorem set_field_keeps (reg mask pos value : UInt8) (shadow : Bmp280T → Bmp280T)
    (calib : ∀ chip, (shadow chip).calibParam = chip.calibParam) (driver : Driver Env) :
    Keeps driver (setField bus reg mask pos value shadow driver).2 := by
  unfold setField
  split
  · dsimp only
    split
    · exact ⟨rfl, by simp [calib, busWrite, busRead]⟩
    · exact ⟨rfl, rfl⟩
  · exact keeps_refl driver

theorem set_power_mode_keeps (mode : UInt8) (driver : Driver Env) :
    Keeps driver (bmp280SetPowerMode bus mode driver).2 := by
  unfold bmp280SetPowerMode
  split
  · split
    · exact ⟨rfl, rfl⟩
    · exact keeps_refl driver
  · exact keeps_refl driver

theorem set_soft_rst_keeps (driver : Driver Env) :
    Keeps driver (bmp280SetSoftRst bus driver).2 := by
  unfold bmp280SetSoftRst
  split
  · exact ⟨rfl, rfl⟩
  · exact keeps_refl driver

theorem setup_keeps (driver : Driver Env) : Keeps driver (pressureSetup bus driver).2 := by
  have mode := set_power_mode_keeps bus normalMode driver
  have press := set_field_keeps bus ctrlMeasReg 0x1C 2 ultraHighResolutionOversampPressure
    (fun chip => { chip with oversampPressure := ultraHighResolutionOversampPressure })
    (fun _ => rfl) (bmp280SetPowerMode bus normalMode driver).2
  have temp := set_field_keeps bus ctrlMeasReg 0xE0 5 ultraHighResolutionOversampTemperature
    (fun chip => { chip with oversampTemperature := ultraHighResolutionOversampTemperature })
    (fun _ => rfl) (bmp280SetOversampPressure bus ultraHighResolutionOversampPressure
      (bmp280SetPowerMode bus normalMode driver).2).2
  exact keeps_trans _ _ _ (keeps_trans _ _ _ (keeps_trans _ _ _ (keeps_trans _ _ _ mode press) temp)
    (set_field_keeps bus configReg 0xE0 5 standbyTime1Ms id (fun _ => rfl) _))
    (set_field_keeps bus configReg 0x1C 2 filterCoeff16 id (fun _ => rfl) _)

theorem reset_keeps (driver : Driver Env) : Keeps driver (pressureReset bus driver) :=
  keeps_trans _ _ _ (set_soft_rst_keeps bus driver) (setup_keeps bus _)

theorem recheck_keeps (driver : Driver Env) : Keeps driver (recheck bus driver).2 := by
  have read : Keeps driver (bmp280ReadUncompPressureTemperature bus driver (0, 0)).2.2 := by
    unfold bmp280ReadUncompPressureTemperature
    split
    · exact ⟨rfl, rfl⟩
    · exact keeps_refl driver
  unfold recheck
  dsimp only
  split
  · exact keeps_trans _ _ _ read (reset_keeps bus _)
  · exact read

/-! One data transfer. The status and the six bytes come from the environment;
the reading is their compensation with the coefficients in memory. -/

def transfer (driver : Driver Env) : Bool × List UInt8 × Env :=
  bus.read driver.env driver.bmp280.devAddr pressureMsbReg (List.replicate dataFrameSize 0)

def reading (driver : Driver Env) : UInt32 × Int32 :=
  compensate driver.bmp280.calibParam (rawPair (transfer bus driver).2.1)

def received (driver : Driver Env) : Driver Env :=
  let raw := rawPair (transfer bus driver).2.1
  let calib := { driver.bmp280.calibParam with tFine := fineTemperature driver.bmp280.calibParam raw.2 }
  { driver with bmp280 := { driver.bmp280 with calibParam := calib }, env := (transfer bus driver).2.2 }

theorem received_keeps (driver : Driver Env) : Keeps driver (received bus driver) := ⟨rfl, rfl⟩

theorem read_pressure_temperature_eq (driver : Driver Env) (pressure : UInt32) (temp : Int32)
    (attached : driver.attached = true) :
    bmp280ReadPressureTemperature bus driver pressure temp =
      (if (transfer bus driver).1 then success else bus.fail, (reading bus driver).1,
        (reading bus driver).2, received bus driver) := by
  obtain ⟨chip, flag, env⟩ := driver
  subst attached
  rfl

theorem read_uncomp_pressure_temperature_eq (driver : Driver Env) (raw : Int32 × Int32)
    (attached : driver.attached = true) :
    bmp280ReadUncompPressureTemperature bus driver raw =
      (if (transfer bus driver).1 then success else bus.fail, rawPair (transfer bus driver).2.1,
        { driver with env := (transfer bus driver).2.2 }) := by
  obtain ⟨chip, flag, env⟩ := driver
  subst attached
  rfl

/-- A reading that either loop would assign to `data->pressure`. -/
def publishes (value : UInt32 × Int32) : Bool := credible value.1 value.2 && inBand value.1

def published (value : UInt32 × Int32) : Option ℚ :=
  if publishes value then some (hectopascal value.1) else none

/-- A reading on which `read_pressure` leaves its loop. -/
def decides (value : UInt32 × Int32) : Bool := credible value.1 value.2 && !decide (value.1 < 75000)

theorem band_not_low (pressure : UInt32) (band : inBand pressure = true) : ¬ pressure < 75000 := by
  simp only [inBand, Bool.and_eq_true, decide_eq_true_eq] at band
  intro low
  have above := UInt32.lt_iff_toNat_lt.mp band.2
  have below := UInt32.lt_iff_toNat_lt.mp low
  simp at above below
  omega

theorem published_isSome (value : UInt32 × Int32) :
    published value ≠ none ↔ publishes value = true := by
  by_cases hit : publishes value = true <;> simp [published, hit]

theorem publishes_decides (value : UInt32 × Int32) (hit : publishes value = true) :
    decides value = true := by
  simp only [publishes, Bool.and_eq_true] at hit
  simp [decides, hit.1, band_not_low value.1 hit.2]

theorem publishes_iff (value : UInt32 × Int32) :
    publishes value = true ↔ decides value = true ∧ inBand value.1 = true := by
  constructor
  · intro hit
    exact ⟨publishes_decides value hit, (Bool.and_eq_true_iff.mp hit).2⟩
  · rintro ⟨decided, band⟩
    exact Bool.and_eq_true_iff.mpr ⟨(Bool.and_eq_true_iff.mp decided).1, band⟩

theorem undecided_unpublished (value : UInt32 × Int32) (missed : decides value = false) :
    published value = none := by
  rw [published, if_neg]
  intro hit
  rw [publishes_decides value hit] at missed
  exact Bool.noConfusion missed

inductive Task where
  | readPressure
  | pressureTask
  deriving DecidableEq

def passOf : Task → LoopState Env → Pass Env
  | .readPressure => readPressurePass bus
  | .pressureTask => pressureTaskPass bus

/-- What either loop reports of a pass is a function of the transfer's status and
of the reading. -/
theorem pass_report (task : Task) (state : LoopState Env) (attached : state.driver.attached = true) :
    (passOf bus task state).res = (if (transfer bus state.driver).1 then success else bus.fail) ∧
    (passOf bus task state).stored = published (reading bus state.driver) ∧
    (passOf bus task state).pressure = (reading bus state.driver).1 ∧
    (passOf bus task state).temp = (reading bus state.driver).2 := by
  have got := read_pressure_temperature_eq bus state.driver state.pressure state.temp attached
  cases task with
  | readPressure =>
      simp only [passOf, readPressurePass, got, published, publishes]
      by_cases fine : credible (reading bus state.driver).1 (reading bus state.driver).2 = true
      · by_cases low : (reading bus state.driver).1 < 75000
        · have outside : inBand (reading bus state.driver).1 = false := by
            by_contra band
            exact band_not_low _ (by simpa using band) low
          simp [fine, low, outside]
        · simp [fine, low]
      · simp [fine]
  | pressureTask =>
      simp only [passOf, pressureTaskPass, got, published, publishes]
      by_cases fine : credible (reading bus state.driver).1 (reading bus state.driver).2 = true <;>
        simp [fine]

theorem read_pressure_leaves (state : LoopState Env) (attached : state.driver.attached = true) :
    (readPressurePass bus state).leaves = decides (reading bus state.driver) := by
  have got := read_pressure_temperature_eq bus state.driver state.pressure state.temp attached
  simp only [readPressurePass, got, decides]
  by_cases fine : credible (reading bus state.driver).1 (reading bus state.driver).2 = true <;>
    by_cases low : (reading bus state.driver).1 < 75000 <;> simp [fine, low]

theorem pass_keeps (task : Task) (state : LoopState Env) (attached : state.driver.attached = true) :
    Keeps state.driver (passOf bus task state).driver := by
  have got := read_pressure_temperature_eq bus state.driver state.pressure state.temp attached
  have front := received_keeps bus state.driver
  cases task with
  | readPressure =>
      simp only [passOf, readPressurePass, got]
      split
      · split
        · exact keeps_trans _ _ _ front (reset_keeps bus _)
        · exact front
      · exact keeps_trans _ _ _ front (recheck_keeps bus _)
  | pressureTask =>
      simp only [passOf, pressureTaskPass, got]
      split
      · exact front
      · exact keeps_trans _ _ _ front (recheck_keeps bus _)

theorem body_again (pass : LoopState Env → Pass Env) (state next : LoopState Env) :
    bodyOf pass state = .inl next ↔ (pass state).leaves = false ∧ next = state.after (pass state) := by
  unfold bodyOf
  by_cases left : (pass state).leaves = true
  · simp [left]
  · simp [left, eq_comm]

theorem body_leave (pass : LoopState Env → Pass Env) (state out : LoopState Env) :
    bodyOf pass state = .inr out ↔ (pass state).leaves = true ∧ out = state.after (pass state) := by
  unfold bodyOf
  by_cases left : (pass state).leaves = true
  · simp [left, eq_comm]
  · simp [left]

/-- Run lemma: every pass of a run starts attached and with the coefficients of
the first one. -/
theorem run_keeps (task : Task) (start state : LoopState Env)
    (attached : start.driver.attached = true)
    (reached : Loop.Reaches (bodyOf (passOf bus task)) start state) :
    Keeps start.driver state.driver := by
  apply Loop.reaches_invariant (bodyOf (passOf bus task)) (fun s => Keeps start.driver s.driver)
    start (keeps_refl _) _ state reached
  intro before next kept pass
  have step := ((body_again (passOf bus task) before next).mp pass).2
  subst step
  exact keeps_trans _ _ _ kept (pass_keeps bus task before (kept.attached.trans attached))

theorem read_chip_id_attached (count : Nat) (value : UInt8) (driver : Driver Env) :
    (readChipId bus count value driver).2.2.attached = driver.attached := by
  induction count generalizing value driver with
  | zero => rfl
  | succ count ih =>
      simp only [readChipId]
      split
      · rfl
      · rw [ih]
        rfl

theorem get_calib_attached (driver : Driver Env) :
    (bmp280GetCalibParam bus driver).2.attached = driver.attached := by
  unfold bmp280GetCalibParam
  split <;> rfl

def identified (driver : Driver Env) : Driver Env :=
  let found := readChipId bus chipIdReadCount 0 { driver with attached := true }
  { found.2.2 with bmp280 := { found.2.2.bmp280 with chipId := found.2.1 } }

/-- The calibration read-out is reached exactly when the chip id loop was left
with tries to spare. -/
theorem init_driver (driver : Driver Env) :
    (bmp280Init bus driver).2 =
      if (readChipId bus chipIdReadCount 0 { driver with attached := true }).1 = 0
        then identified bus driver
        else (bmp280GetCalibParam bus (identified bus driver)).2 := by
  by_cases spent : (readChipId bus chipIdReadCount 0 { driver with attached := true }).1 = 0
  · simp [bmp280Init, spent, identified, chipIdReadFail, chipIdReadSuccess]
  · simp [bmp280Init, spent, identified, chipIdReadSuccess]

theorem identified_attached (driver : Driver Env) : (identified bus driver).attached = true :=
  read_chip_id_attached bus chipIdReadCount 0 { driver with attached := true }

theorem init_attached (driver : Driver Env) : (bmp280Init bus driver).2.attached = true := by
  rw [init_driver]
  split
  · exact identified_attached bus driver
  · rw [get_calib_attached]
    exact identified_attached bus driver

theorem entry_attached (driver : Driver Env) (data : ClimateData) :
    (entry bus driver data).driver.attached = true :=
  (setup_keeps bus _).attached.trans (init_attached bus _)

/-- Up to the pass that leaves, `read_pressure` assigns nothing. -/
theorem read_pressure_data (driver : Driver Env) (data : ClimateData) (state : LoopState Env)
    (reached : Loop.Reaches (bodyOf (readPressurePass bus)) (entry bus driver data) state) :
    state.driver.attached = true ∧ state.data = data := by
  apply Loop.reaches_invariant (bodyOf (readPressurePass bus))
    (fun s => s.driver.attached = true ∧ s.data = data) _
    ⟨entry_attached bus driver data, rfl⟩ _ state reached
  rintro before next ⟨attached, same⟩ pass
  obtain ⟨stays, rfl⟩ := (body_again (readPressurePass bus) before next).mp pass
  refine ⟨(pass_keeps bus .readPressure before attached).attached.trans attached, ?_⟩
  have stored := (pass_report bus .readPressure before attached).2.1
  rw [read_pressure_leaves bus before attached] at stays
  rw [undecided_unpublished _ stays] at stored
  exact (congrArg before.data.store stored).trans same

/-- `read_pressure` returns on a reading that decides, and has then assigned that
reading or nothing. -/
theorem read_pressure_returns (driver : Driver Env) (data : ClimateData) (out : LoopState Env)
    (returned : ReadPressure bus driver data out) :
    ∃ state, Loop.Reaches (bodyOf (readPressurePass bus)) (entry bus driver data) state ∧
      reading bus state.driver = (out.pressure, out.temp) ∧
      decides (reading bus state.driver) = true ∧
      out.data = data.store (published (reading bus state.driver)) := by
  obtain ⟨state, reached, left⟩ := Loop.returns_leaves _ _ out returned
  obtain ⟨attached, same⟩ := read_pressure_data bus driver data state reached
  obtain ⟨leaves, rfl⟩ := (body_leave _ state out).mp left
  obtain ⟨_, stored, pressure, temp⟩ := pass_report bus .readPressure state attached
  rw [read_pressure_leaves bus state attached] at leaves
  simp only [passOf] at stored pressure temp
  refine ⟨state, reached, ?_, leaves, ?_⟩
  · simp only [LoopState.after, pressure, temp]
  · simp only [LoopState.after, stored, same]

end AirMonitor.DriverFrame
