import AirMonitor.Settings

/-!
`bmp280_get_forced_uncomp_pressure_temperature` on a sensor with a clock. Times are in
sixteenths of a millisecond, the unit of `bmp280_compute_wait_time`. The sensor is any
that does with a forced-mode command what is said of it here while no conversion is
under way; nothing is said of a command during one.
-/

namespace AirMonitor.Forced
open Bytes Bmp280 Bmp280Api Settings

/-- `(1 << oversampling) >> 1` -/
def samples (oversampling : UInt8) : Nat := (1 <<< oversampling.toNat) >>> 1

def longest (temperature pressure : UInt8) : Nat :=
  tInitMax + tMeasurePerOsrsMax * (samples temperature + samples pressure) +
    (if 0 < pressure then tSetupPressureMax else 0)

/-- A sensor, its bus and the passing of time, by what can be seen of them. -/
structure Timed (Env : Type) where
  bus : Bus Env
  -- `delay_msec`, and the time between two calls
  delay : Env → UInt8 → Env
  pause : Env → Nat → Env
  -- in sixteenths of a millisecond
  clock : Env → Nat
  -- the data registers
  shown : Env → List UInt8
  idle : Env → Prop
  -- a conversion under way, with the time when it ends and the frame it leaves
  pending : Env → Nat → List UInt8 → Prop
  -- what a conversion from a time on measures, and its length for a command
  sample : Nat → List UInt8
  takes : UInt8 → Nat → Nat

section Sensor
variable {Env : Type} (sensor : Timed Env)

/-- Calls with a pause before each: the environment at every call and what the call
returned. It ends early where the wait is undefined. -/
def calls : List Nat → Driver Env → List (Env × Int8 × (Int32 × Int32))
  | [], _ => []
  | pause :: rest, driver =>
      let env := sensor.pause driver.env pause
      match bmp280GetForcedUncompPressureTemperature sensor.bus sensor.delay (0, 0)
          { driver with env := env } with
      | some got => (env, got.1, got.2.1) :: calls rest got.2.2
      | none => []

/-- Time passes: the registers keep what they hold until a conversion under way ends. -/
structure Passes (before after : Env) : Prop where
  clock : sensor.clock before ≤ sensor.clock after
  rests : sensor.idle before → sensor.idle after ∧ sensor.shown after = sensor.shown before
  goes : ∀ ready frame, sensor.pending before ready frame → sensor.clock after < ready →
    sensor.pending after ready frame ∧ sensor.shown after = sensor.shown before
  ends : ∀ ready frame, sensor.pending before ready frame → ready ≤ sensor.clock after →
    sensor.idle after ∧ sensor.shown after = frame

/-- The command is acknowledged and starts a conversion at once. -/
structure Starts (before after : Env) (byte : UInt8) : Prop where
  clock : sensor.clock after = sensor.clock before
  shown : sensor.shown after = sensor.shown before
  pending : sensor.pending after (sensor.clock before + sensor.takes byte (sensor.clock before))
    (sensor.sample (sensor.clock before))

/-- The sensor on a bus that loses nothing. -/
structure Acts : Prop where
  starts : ∀ env devAddr byte, sensor.idle env → slice .powerMode byte = forcedMode →
    (sensor.bus.write env devAddr ctrlMeasReg [byte]).1 = true ∧
      Starts sensor env (sensor.bus.write env devAddr ctrlMeasReg [byte]).2 byte
  reads : ∀ env devAddr, sensor.bus.read env devAddr pressureMsbReg
    (List.replicate dataFrameSize 0) = (true, sensor.shown env, env)
  delays : ∀ env msec, Passes sensor env (sensor.delay env msec)
  pauses : ∀ env time, Passes sensor env (sensor.pause env time)

/-- No conversion is longer than the driver reckons with. -/
def Quick : Prop := ∀ byte time,
  sensor.takes byte time ≤ longest (slice .oversampTemperature byte) (slice .oversampPressure byte)

def Slow : Prop := ∀ byte time,
  sensor.takes byte time = longest (slice .oversampTemperature byte) (slice .oversampPressure byte)

/-- `delay_msec` waits at least as long as it is asked to. -/
def Waits : Prop := ∀ env msec,
  sensor.clock env + 16 * msec.toNat ≤ sensor.clock (sensor.delay env msec)

def Lasts : Prop := ∀ env time, sensor.clock env + time ≤ sensor.clock (sensor.pause env time)

end Sensor

/-! The time waited. -/

theorem samples_small (oversampling : UInt8) (fits : oversampling < 8) :
    samples oversampling ≤ 32 ∨ oversampling = 7 ∧ samples oversampling = 64 := by
  have below : oversampling.toNat < 8 := UInt8.lt_iff_toNat_lt.mp fits
  by_cases last : oversampling.toNat = 7
  · have seven : oversampling = 7 := UInt8.toNat_inj.mp last
    subst seven
    exact .inr ⟨rfl, rfl⟩
  · have power : 2 ^ oversampling.toNat ≤ 2 ^ 6 := Nat.pow_le_pow_right (by omega) (by omega)
    left
    rw [samples, Nat.shiftLeft_eq, Nat.shiftRight_eq_div_pow]
    omega

def waited (chip : Bmp280T) : UInt8 :=
  UInt8.ofNat ((longest chip.oversampTemperature chip.oversampPressure + 15) / 16)

theorem wait_time (chip : Bmp280T) (small : Settings.Small chip) :
    bmp280ComputeWaitTime chip = some (waited chip) := by
  have one := samples_small _ small.1
  have two := samples_small _ small.2
  have total : longest chip.oversampTemperature chip.oversampPressure + 15 < 2147483648 := by
    simp only [longest, tInitMax, tMeasurePerOsrsMax, tSetupPressureMax]
    split <;> omega
  exact if_pos total

theorem wait_covers (chip : Bmp280T) (small : Settings.Small chip)
    (whole : ¬ (chip.oversampTemperature = 7 ∧ chip.oversampPressure = 7)) :
    longest chip.oversampTemperature chip.oversampPressure ≤ 16 * (waited chip).toNat ∧
      16 * (waited chip).toNat ≤ longest chip.oversampTemperature chip.oversampPressure + 15 := by
  have one := samples_small _ small.1
  have two := samples_small _ small.2
  have sum : samples chip.oversampTemperature + samples chip.oversampPressure ≤ 96 := by
    cases one with
    | inl short => omega
    | inr long =>
        cases two with
        | inl short => omega
        | inr last => exact absurd ⟨long.1, last.1⟩ whole
  have size : longest chip.oversampTemperature chip.oversampPressure ≤ 3582 := by
    simp only [longest, tInitMax, tMeasurePerOsrsMax, tSetupPressureMax]
    split <;> omega
  have number : (waited chip).toNat =
      (longest chip.oversampTemperature chip.oversampPressure + 15) / 16 % 256 :=
    UInt8.toNat_ofNat'
  omega

/-- With both fields 7 it wraps around to 42 milliseconds. -/
theorem wait_wraps (chip : Bmp280T)
    (both : chip.oversampTemperature = 7 ∧ chip.oversampPressure = 7) :
    16 * (waited chip).toNat < longest chip.oversampTemperature chip.oversampPressure := by
  rw [waited, both.1, both.2]
  decide

section Runs
variable {Env : Type} (sensor : Timed Env)

def forcedByte (chip : Bmp280T) : UInt8 :=
  modeByte chip.oversampTemperature chip.oversampPressure forcedMode

def commanded (chip : Bmp280T) (env : Env) : Env :=
  (sensor.bus.write env chip.devAddr ctrlMeasReg [forcedByte chip]).2

def measured (chip : Bmp280T) (env : Env) : Env :=
  sensor.delay (commanded sensor chip env) (waited chip)

theorem commanded_starts (acts : Acts sensor) (chip : Bmp280T) (small : Settings.Small chip)
    (env : Env) (idle : sensor.idle env) :
    (sensor.bus.write env chip.devAddr ctrlMeasReg [forcedByte chip]).1 = true ∧
      Starts sensor env (commanded sensor chip env) (forcedByte chip) :=
  acts.starts env chip.devAddr (forcedByte chip) idle
    (mode_byte_slices _ _ forcedMode small.1 small.2 (by decide)).2.2

theorem call_returns (acts : Acts sensor) (chip : Bmp280T) (small : Settings.Small chip) (env : Env)
    (idle : sensor.idle env) (raw : Int32 × Int32) :
    bmp280GetForcedUncompPressureTemperature sensor.bus sensor.delay raw ⟨chip, true, env⟩ =
      some (success, rawPair (sensor.shown (measured sensor chip env)),
        ⟨chip, true, measured sensor chip env⟩) := by
  have told := (commanded_starts sensor acts chip small env idle).1
  have sent : busWrite sensor.bus ⟨chip, true, env⟩ ctrlMeasReg [forcedByte chip] =
      (success, ⟨chip, true, commanded sensor chip env⟩) := by
    simp only [busWrite, told, if_true]
    rfl
  have known := wait_time chip small
  simp only [bmp280GetForcedUncompPressureTemperature, if_true]
  simp only [forcedByte, modeByte] at sent
  rw [sent]
  simp only [known, Option.map_some, bmp280ReadUncompPressureTemperature, busRead, if_true,
    acts.reads]
  rfl

theorem calls_cons (acts : Acts sensor) (chip : Bmp280T) (small : Settings.Small chip) (env : Env)
    (pause : Nat) (rest : List Nat) (idle : sensor.idle (sensor.pause env pause)) :
    let asked := sensor.pause env pause
    calls sensor (pause :: rest) ⟨chip, true, env⟩ =
      (asked, success, rawPair (sensor.shown (measured sensor chip asked))) ::
        calls sensor rest ⟨chip, true, measured sensor chip asked⟩ := by
  intro asked
  rw [calls]
  simp only
  rw [call_returns sensor acts chip small _ idle]

theorem forced_slices (chip : Bmp280T) (small : Settings.Small chip) :
    slice .oversampTemperature (forcedByte chip) = chip.oversampTemperature ∧
      slice .oversampPressure (forcedByte chip) = chip.oversampPressure := by
  have slices := mode_byte_slices _ _ forcedMode small.1 small.2 (by decide)
  exact ⟨slices.1, slices.2.1⟩

theorem measured_fresh (acts : Acts sensor) (quick : Quick sensor) (waits : Waits sensor)
    (chip : Bmp280T) (small : Settings.Small chip)
    (whole : ¬ (chip.oversampTemperature = 7 ∧ chip.oversampPressure = 7)) (env : Env)
    (idle : sensor.idle env) :
    sensor.idle (measured sensor chip env) ∧
      sensor.shown (measured sensor chip env) = sensor.sample (sensor.clock env) := by
  obtain ⟨_, clock, _, pending⟩ := commanded_starts sensor acts chip small env idle
  have slices := forced_slices chip small
  have conversion := quick (forcedByte chip) (sensor.clock env)
  have enough := (wait_covers chip small whole).1
  have waited := waits (commanded sensor chip env) (waited chip)
  rw [slices.1, slices.2] at conversion
  apply (acts.delays _ _).ends _ _ pending
  omega

theorem calls_fresh (acts : Acts sensor) (quick : Quick sensor) (waits : Waits sensor)
    (chip : Bmp280T) (small : Settings.Small chip)
    (whole : ¬ (chip.oversampTemperature = 7 ∧ chip.oversampPressure = 7)) (pauses : List Nat)
    (env : Env) (idle : sensor.idle env) :
    let run := calls sensor pauses ⟨chip, true, env⟩
    run.length = pauses.length ∧
      ∀ entry ∈ run, entry.2 = (success, rawPair (sensor.sample (sensor.clock entry.1))) := by
  induction pauses generalizing env with
  | nil => exact ⟨rfl, by simp [calls]⟩
  | cons pause rest ih =>
      have ready := ((acts.pauses env pause).rests idle).1
      obtain ⟨still, frame⟩ := measured_fresh sensor acts quick waits chip small whole _ ready
      obtain ⟨length, fresh⟩ := ih _ still
      dsimp only
      rw [calls_cons sensor acts chip small env pause rest ready]
      refine ⟨by rw [List.length_cons, length, List.length_cons], ?_⟩
      intro entry member
      cases List.mem_cons.mp member with
      | inl here => rw [here, frame]
      | inr later => exact fresh entry later

/-- After a wait that is too short they hold what they held, and the conversion is
still under way. -/
theorem measured_stale (acts : Acts sensor) (slow : Slow sensor) (chip : Bmp280T)
    (small : Settings.Small chip) (env : Env) (idle : sensor.idle env)
    (short : sensor.clock (measured sensor chip env) <
      sensor.clock env + longest chip.oversampTemperature chip.oversampPressure) :
    sensor.pending (measured sensor chip env)
        (sensor.clock env + longest chip.oversampTemperature chip.oversampPressure)
        (sensor.sample (sensor.clock env)) ∧
      sensor.shown (measured sensor chip env) = sensor.shown env := by
  obtain ⟨_, clock, shown, pending⟩ := commanded_starts sensor acts chip small env idle
  have slices := forced_slices chip small
  have conversion := slow (forcedByte chip) (sensor.clock env)
  rw [slices.1, slices.2] at conversion
  rw [conversion] at pending
  obtain ⟨going, same⟩ := (acts.delays _ (waited chip)).goes _ _ pending short
  exact ⟨going, same.trans shown⟩

end Runs

/-! A sensor with one conversion at a time, whose clock the delays move. -/

structure Clocked where
  clock : Nat
  held : Nat → UInt8
  due : Option (Nat × (Nat → UInt8))

def frameOf (bytes : Nat → UInt8) : List UInt8 := (List.range dataFrameSize).map bytes

namespace Clocked

def pass (state : Clocked) (time : Nat) : Clocked :=
  match state.due with
  | some (ready, bytes) =>
      if ready ≤ state.clock + time then ⟨state.clock + time, bytes, none⟩
      else { state with clock := state.clock + time }
  | none => { state with clock := state.clock + time }

section Instance
variable (takes : UInt8 → Nat → Nat) (measures : Nat → Nat → UInt8) (waits : Nat → UInt8 → Nat)

/-- A command during a conversion is not looked at. -/
def command (state : Clocked) (byte : UInt8) : Clocked :=
  match state.due with
  | none => { state with due := some (state.clock + takes byte state.clock, measures state.clock) }
  | some _ => state

def bus : Bus Clocked where
  write state _ regAddr regData :=
    (true, if regAddr = ctrlMeasReg ∧ slice .powerMode (byteAt regData 0) = forcedMode
      then state.command takes measures (byteAt regData 0) else state)
  read state _ _ regData := (true, (List.range regData.length).map state.held, state)
  readLength _ _ _ _ := by simp
  fail := Setup.failCode.1
  failNonzero := Sensor.fail_nonzero Setup.failCode

/-- `measures` is what a conversion from a time on measures, `waits` the time that a
delay takes. -/
def sensor : Timed Clocked where
  bus := bus takes measures
  delay state msec := state.pass (waits state.clock msec)
  pause := pass
  clock := clock
  shown state := frameOf state.held
  idle state := state.due = none
  pending state ready frame := ∃ bytes, state.due = some (ready, bytes) ∧ frame = frameOf bytes
  sample time := frameOf (measures time)
  takes := takes

theorem pass_clock (state : Clocked) (time : Nat) : (state.pass time).clock = state.clock + time := by
  obtain ⟨clock, held, due⟩ := state
  cases due with
  | none => rfl
  | some due =>
      simp only [pass]
      split <;> rfl

theorem pass_passes (state : Clocked) (time : Nat) :
    Passes (sensor takes measures waits) state (state.pass time) := by
  have clock := pass_clock state time
  constructor
  · exact (Nat.le_add_right _ _).trans_eq clock.symm
  · intro idle
    have still : state.due = none := idle
    simp [sensor, pass, still]
  · rintro ready frame ⟨bytes, due, same⟩ early
    have later : ¬ ready ≤ state.clock + time := by
      rw [← clock]
      exact Nat.not_le_of_lt early
    simp [sensor, pass, due, later, same]
  · rintro ready frame ⟨bytes, due, same⟩ late
    have past : ready ≤ state.clock + time := by
      rw [← clock]
      exact late
    simp [sensor, pass, due, past, same]

theorem sensor_acts : Acts (sensor takes measures waits) where
  starts state devAddr byte idle forced := by
    have still : state.due = none := idle
    have sent : ((sensor takes measures waits).bus.write state devAddr ctrlMeasReg [byte]) =
        (true, { state with
          due := some (state.clock + takes byte state.clock, measures state.clock) }) := by
      simp [sensor, bus, command, still, byteAt, forced]
    rw [sent]
    exact ⟨rfl, rfl, rfl, _, rfl, rfl⟩
  reads _ _ := rfl
  delays state msec := pass_passes takes measures waits state (waits state.clock msec)
  pauses state time := pass_passes takes measures waits state time

end Instance

end Clocked

/-- Conversions of the longest time, and delays of exactly the time asked for. -/
def exactSensor : Timed Clocked :=
  Clocked.sensor
    (fun byte _ => longest (slice .oversampTemperature byte) (slice .oversampPressure byte))
    (fun _ _ => 0x80) fun _ msec => 16 * msec.toNat

def resting : Clocked := ⟨0, fun _ => 0, none⟩

theorem exact_acts : Acts exactSensor := Clocked.sensor_acts _ _ _

theorem exact_slow : Slow exactSensor := fun _ _ => rfl

theorem exact_waits : Waits exactSensor :=
  fun env _ => le_of_eq (Clocked.pass_clock env _).symm

/-- Where the wait wraps around, the read comes before the conversion ends. -/
theorem wrapped_stale (chip : Bmp280T) (small : Settings.Small chip)
    (both : chip.oversampTemperature = 7 ∧ chip.oversampPressure = 7) :
    exactSensor.shown (measured exactSensor chip resting) = frameOf fun _ => 0 := by
  have told : (commanded exactSensor chip resting).clock = 0 :=
    (commanded_starts exactSensor exact_acts chip small resting rfl).2.clock
  have time : exactSensor.clock (measured exactSensor chip resting) =
      0 + 16 * (waited chip).toNat := by
    have passed := Clocked.pass_clock (commanded exactSensor chip resting)
      (16 * (waited chip).toNat)
    rwa [told] at passed
  have wraps := Nat.add_lt_add_left (wait_wraps chip both) 0
  rw [← time] at wraps
  exact (measured_stale exactSensor exact_acts exact_slow chip small resting rfl wraps).2

/-- `1000 / CONFIG_FREERTOS_HZ` -/
def portTickPeriodMs : Nat := 10

/-- `BMP280_delay_msek` in ticks -/
def bmp280DelayMsek (msek : UInt8) : Nat := msek.toNat / portTickPeriodMs

section Lag
variable {Env : Type} (sensor : Timed Env)

def Ticks : Prop := ∀ env msec,
  sensor.clock (sensor.delay env msec) ≤
    sensor.clock env + 16 * portTickPeriodMs * bmp280DelayMsek msec

/-- Every call returns the frame that the registers held when it was made, and that is
the conversion which the call before it started. -/
def Lagging : List UInt8 → List (Env × Int8 × (Int32 × Int32)) → Prop
  | _, [] => True
  | frame, entry :: rest =>
      sensor.shown entry.1 = frame ∧ entry.2 = (success, rawPair frame) ∧
        Lagging (sensor.sample (sensor.clock entry.1)) rest

theorem ticks_short (ticks : Ticks sensor) (chip : Bmp280T) (small : Settings.Small chip)
    (rest : (waited chip).toNat % portTickPeriodMs ≠ 0) (env : Env) :
    sensor.clock (sensor.delay env (waited chip)) <
      sensor.clock env + longest chip.oversampTemperature chip.oversampPressure := by
  have most := ticks env (waited chip)
  simp only [portTickPeriodMs, bmp280DelayMsek] at most rest
  by_cases both : chip.oversampTemperature = 7 ∧ chip.oversampPressure = 7
  · have wraps := wait_wraps chip both
    omega
  · have close := (wait_covers chip small both).2
    omega

theorem work_mode_rest (mode : UInt8) (known : mode ≤ ultraHighResolutionMode) (chip : Bmp280T) :
    Settings.Small (workMode mode chip) ∧
      (waited (workMode mode chip)).toNat % portTickPeriodMs ≠ 0 := by
  obtain ⟨temperature, pressure, _, warm, dense, chosen⟩ := work_mode_values mode known
  have zero := chosen Bmp280T.zero
  have same : waited (workMode mode chip) = waited (workMode mode Bmp280T.zero) := by
    rw [waited, waited, (chosen chip).1, (chosen chip).2, zero.1, zero.2]
  constructor
  · rw [Settings.Small, (chosen chip).1, (chosen chip).2]
    exact ⟨warm, dense⟩
  · rw [same]
    rcases work_mode_cases mode known with rfl | rfl | rfl | rfl | rfl <;> decide

/-- After a pause as long as a conversion the registers will show this frame. -/
def Awaits (span : Nat) (env : Env) (frame : List UInt8) : Prop :=
  (sensor.idle env ∧ sensor.shown env = frame) ∨
    ∃ ready, sensor.pending env ready frame ∧ ready ≤ sensor.clock env + span

theorem awaited (acts : Acts sensor) (lasts : Lasts sensor) (span pause : Nat) (long : span ≤ pause)
    (env : Env) (frame : List UInt8) (awaits : Awaits sensor span env frame) :
    sensor.idle (sensor.pause env pause) ∧ sensor.shown (sensor.pause env pause) = frame := by
  have passes := acts.pauses env pause
  rcases awaits with ⟨idle, shown⟩ | ⟨ready, pending, soon⟩
  · exact ⟨(passes.rests idle).1, (passes.rests idle).2.trans shown⟩
  · have later := lasts env pause
    exact passes.ends ready frame pending (by omega)

theorem calls_lag (acts : Acts sensor) (slow : Slow sensor) (ticks : Ticks sensor)
    (lasts : Lasts sensor) (chip : Bmp280T) (small : Settings.Small chip)
    (rest : (waited chip).toNat % portTickPeriodMs ≠ 0) (pauses : List Nat)
    (long : ∀ pause ∈ pauses, longest chip.oversampTemperature chip.oversampPressure ≤ pause)
    (env : Env) (frame : List UInt8)
    (awaits : Awaits sensor (longest chip.oversampTemperature chip.oversampPressure) env frame) :
    let run := calls sensor pauses ⟨chip, true, env⟩
    run.length = pauses.length ∧ Lagging sensor frame run := by
  induction pauses generalizing env frame with
  | nil => exact ⟨rfl, trivial⟩
  | cons pause later ih =>
      obtain ⟨idle, shown⟩ :=
        awaited sensor acts lasts _ pause (long pause List.mem_cons_self) env frame awaits
      have clock := (commanded_starts sensor acts chip small _ idle).2.clock
      have short := ticks_short sensor ticks chip small rest
        (commanded sensor chip (sensor.pause env pause))
      rw [clock] at short
      obtain ⟨pending, same⟩ := measured_stale sensor acts slow chip small _ idle short
      have forward : sensor.clock (sensor.pause env pause) ≤
          sensor.clock (measured sensor chip (sensor.pause env pause)) := by
        rw [← clock]
        exact (acts.delays _ _).clock
      obtain ⟨length, lagging⟩ := ih (fun other member => long other (List.mem_cons_of_mem _ member))
        (measured sensor chip (sensor.pause env pause))
        (sensor.sample (sensor.clock (sensor.pause env pause)))
        (.inr ⟨_, pending, by omega⟩)
      dsimp only
      rw [calls_cons sensor acts chip small env pause later idle]
      refine ⟨by rw [List.length_cons, length, List.length_cons], shown, ?_, lagging⟩
      rw [same, shown]

end Lag

/-- Frames that tell the time of their conversion, and ticks that go on between calls. -/
def tickingSensor : Timed Clocked :=
  Clocked.sensor
    (fun byte _ => longest (slice .oversampTemperature byte) (slice .oversampPressure byte))
    (fun time index => UInt8.ofNat (time / 256 ^ index))
    (fun time msec =>
      16 * portTickPeriodMs * bmp280DelayMsek msec - time % (16 * portTickPeriodMs))

end AirMonitor.Forced
