import AirMonitor.Calls
import AirMonitor.Publication

/-!
The two acquisition loops on one stream of samples. A pass of either loop looks
at nothing else: the driver and the locals are assigned before they are read.
The range tests agree; the recovery from a low reading is in `read_pressure` only.
-/

namespace AirMonitor.Paths
open Bmp280 Pressure DriverFrame Publication Calls

/-- What the sensor has for one pass: the compensated reading, and the raw pair a
second read gives where the reading is refused. -/
structure Sample where
  pressure : UInt32
  temp : Int32
  raw : Int32 × Int32

/-- What a pass does about its sample: the value it assigns to `data->pressure`,
and whether it calls `pressure_reset`. -/
structure Verdict where
  stored : Option ℚ
  reset : Bool

def recheckOn (sample : Sample) : Bool := sample.raw.1 == 524288 && sample.raw.2 == 524288

/-- A pass of `read_pressure`, and whether it ends in `break`. -/
def readPressureOn (sample : Sample) : Verdict × Bool :=
  if credible sample.pressure sample.temp then
    if sample.pressure < 75000 then (⟨none, true⟩, false)
    else
      (⟨if inBand sample.pressure then some (hectopascal sample.pressure) else none, false⟩, true)
  else (⟨none, recheckOn sample⟩, false)

def pressureTaskOn (sample : Sample) : Verdict :=
  if credible sample.pressure sample.temp then
    ⟨if inBand sample.pressure then some (hectopascal sample.pressure) else none, false⟩
  else ⟨none, recheckOn sample⟩

/-- One call of `read_pressure` on the samples to come. -/
def readPressureLoop : List Sample → List Verdict × Option (List Sample)
  | [] => ([], none)
  | sample :: rest =>
      let pass := readPressureOn sample
      if pass.2 then ([pass.1], some rest)
      else
        let later := readPressureLoop rest
        (pass.1 :: later.1, later.2)

def pressureTaskLoop (samples : List Sample) : List Verdict := samples.map pressureTaskOn

/-! The bus level does on its transfers what these say of the samples. -/

section Bus
variable {Env : Type} (bus : Bus Env)

/-- The sample behind a driver: its next transfer, and the one after it. -/
def sampled (driver : Driver Env) : Sample :=
  ⟨(reading bus driver).1, (reading bus driver).2, rawPair (transfer bus (received bus driver)).2.1⟩

theorem recheck_sampled (driver : Driver Env) (attached : driver.attached = true) :
    (recheck bus (received bus driver)).1 = recheckOn (sampled bus driver) := by
  have again : bmp280ReadUncompPressureTemperature bus (received bus driver) (0, 0) =
      (if (transfer bus (received bus driver)).1 then success else bus.fail,
        rawPair (transfer bus (received bus driver)).2.1,
        { received bus driver with env := (transfer bus (received bus driver)).2.2 }) := by
    have still : (received bus driver).attached = true := attached
    rw [bmp280ReadUncompPressureTemperature, if_pos still]
    rfl
  have same : recheckOn (sampled bus driver) =
      decide ((rawPair (transfer bus (received bus driver)).2.1).1 = 524288 ∧
        (rawPair (transfer bus (received bus driver)).2.1).2 = 524288) := by
    rw [Bool.decide_and]
    rfl
  rw [recheck, again, same]
  by_cases both : (rawPair (transfer bus (received bus driver)).2.1).1 = 524288 ∧
      (rawPair (transfer bus (received bus driver)).2.1).2 = 524288
  · rw [if_pos both, decide_eq_true both]
  · rw [if_neg both, decide_eq_false both]

theorem read_pressure_verdict (state : LoopState Env) (attached : state.driver.attached = true) :
    let pass := readPressurePass bus state
    ((⟨pass.stored, pass.reset⟩ : Verdict), pass.leaves) =
      readPressureOn (sampled bus state.driver) := by
  have got := read_pressure_temperature_eq bus state.driver state.pressure state.temp attached
  have checked := recheck_sampled bus state.driver attached
  by_cases fine :
      credible (sampled bus state.driver).pressure (sampled bus state.driver).temp = true
  · have first : credible (reading bus state.driver).1 (reading bus state.driver).2 = true := fine
    by_cases low : (sampled bus state.driver).pressure < 75000
    · have second : (reading bus state.driver).1 < 75000 := low
      simp only [readPressurePass, readPressureOn, got, if_pos first, if_pos second, if_pos fine,
        if_pos low]
    · have second : ¬ (reading bus state.driver).1 < 75000 := low
      simp only [readPressurePass, readPressureOn, got, if_pos first, if_neg second, if_pos fine,
        if_neg low]
      rfl
  · have first : ¬ credible (reading bus state.driver).1 (reading bus state.driver).2 = true := fine
    simp only [readPressurePass, readPressureOn, got, if_neg first, if_neg fine, checked]

theorem pressure_task_verdict (state : LoopState Env) (attached : state.driver.attached = true) :
    let pass := pressureTaskPass bus state
    (⟨pass.stored, pass.reset⟩ : Verdict) = pressureTaskOn (sampled bus state.driver) ∧
      pass.leaves = false := by
  have got := read_pressure_temperature_eq bus state.driver state.pressure state.temp attached
  have checked := recheck_sampled bus state.driver attached
  by_cases fine :
      credible (sampled bus state.driver).pressure (sampled bus state.driver).temp = true
  · have first : credible (reading bus state.driver).1 (reading bus state.driver).2 = true := fine
    simp only [pressureTaskPass, pressureTaskOn, got, if_pos first, if_pos fine]
    exact ⟨rfl, trivial⟩
  · have first : ¬ credible (reading bus state.driver).1 (reading bus state.driver).2 = true := fine
    simp only [pressureTaskPass, pressureTaskOn, got, if_neg first, if_neg fine, checked]
    trivial

/-- The samples behind the next passes of either loop. -/
def observed (task : Task) : Nat → LoopState Env → List Sample
  | 0, _ => []
  | passes + 1, state =>
      sampled bus state.driver :: observed task passes (state.after (passOf bus task state))

/-- What those passes do; `read_pressure` stops where it leaves its loop. -/
def reports (task : Task) : Nat → LoopState Env → List Verdict
  | 0, _ => []
  | passes + 1, state =>
      let pass := passOf bus task state
      ⟨pass.stored, pass.reset⟩ ::
        if pass.leaves then [] else reports task passes (state.after pass)

theorem after_attached (task : Task) (state : LoopState Env)
    (attached : state.driver.attached = true) :
    (state.after (passOf bus task state)).driver.attached = true :=
  (pass_keeps bus task state attached).attached.trans attached

theorem read_pressure_run (passes : Nat) (state : LoopState Env)
    (attached : state.driver.attached = true) :
    reports bus .readPressure passes state =
      (readPressureLoop (observed bus .readPressure passes state)).1 := by
  induction passes generalizing state with
  | zero => rfl
  | succ passes ih =>
      have verdict := read_pressure_verdict bus state attached
      have later := ih _ (after_attached bus .readPressure state attached)
      rw [reports, observed, readPressureLoop, ← verdict, later]
      by_cases leaves : (passOf bus .readPressure state).leaves = true
      · have left : (readPressurePass bus state).leaves = true := leaves
        simp only [if_pos leaves, if_pos left]
        rfl
      · have left : ¬ (readPressurePass bus state).leaves = true := leaves
        simp only [if_neg leaves, if_neg left]
        rfl

theorem pressure_task_run (passes : Nat) (state : LoopState Env)
    (attached : state.driver.attached = true) :
    reports bus .pressureTask passes state =
      pressureTaskLoop (observed bus .pressureTask passes state) := by
  induction passes generalizing state with
  | zero => rfl
  | succ passes ih =>
      obtain ⟨verdict, stays⟩ := pressure_task_verdict bus state attached
      have leaves : ¬ (passOf bus .pressureTask state).leaves = true := by
        rw [passOf, stays]
        decide
      rw [reports, observed, pressureTaskLoop, List.map_cons, ← verdict,
        ih _ (after_attached bus .pressureTask state attached)]
      simp only [if_neg leaves]
      rfl

end Bus

theorem loop_takes (samples : List Sample) (verdicts : List Verdict) (after : Option (List Sample))
    (ran : readPressureLoop samples = (verdicts, after)) :
    ∃ taken, samples = taken ++ after.getD [] ∧
      verdicts = (taken.flatMap fun sample => [(readPressureOn sample).1]) ∧
      (after ≠ none → taken ≠ []) := by
  induction samples generalizing verdicts with
  | nil =>
      obtain ⟨rfl, rfl⟩ : [] = verdicts ∧ none = after := by simpa [readPressureLoop] using ran
      exact ⟨[], rfl, rfl, fun some => absurd rfl some⟩
  | cons sample rest ih =>
      simp only [readPressureLoop] at ran
      by_cases leaves : (readPressureOn sample).2 = true
      · obtain ⟨rfl, rfl⟩ : [(readPressureOn sample).1] = verdicts ∧ some rest = after := by
          simpa [leaves] using ran
        exact ⟨[sample], rfl, rfl, fun _ => by simp⟩
      · obtain ⟨rfl, same⟩ : (readPressureOn sample).1 :: (readPressureLoop rest).1 = verdicts ∧
            (readPressureLoop rest).2 = after := by
          simpa [leaves] using ran
        obtain ⟨taken, split, front, _⟩ := ih (readPressureLoop rest).1 (by rw [← same])
        refine ⟨sample :: taken, by rw [split]; simp, ?_, fun _ => by simp⟩
        rw [front]
        rfl

def readPressureCall : Call Sample Verdict where
  run _ samples := readPressureLoop samples
  takes := by
    intro _ samples verdicts rest ran
    obtain ⟨taken, split, _, some⟩ := loop_takes samples verdicts (some rest) ran
    have used := List.length_pos_iff.mpr (some (by simp))
    rw [split, List.length_append]
    exact Nat.lt_add_of_pos_left used

/-- Wherever a return falls, the calls together give every sample its verdict. -/
theorem calls_verdicts (samples : List Sample) :
    repeated readPressureCall 0 samples = samples.map fun sample => (readPressureOn sample).1 := by
  have itemwise : Itemwise readPressureCall fun sample => [(readPressureOn sample).1] := by
    intro _ samples verdicts after ran
    obtain ⟨taken, split, same, _⟩ := loop_takes samples verdicts after ran
    exact ⟨taken, split, same⟩
  rw [repeated_itemwise readPressureCall _ itemwise, List.map_eq_flatMap]

def written (verdicts : List Verdict) : List ℚ := verdicts.filterMap Verdict.stored

/-- For each sample in turn, whether a reset came after it. -/
def resets (verdicts : List Verdict) : List Bool := verdicts.map Verdict.reset

def Agree (samples : List Sample) : Prop :=
  written (repeated readPressureCall 0 samples) = written (pressureTaskLoop samples) ∧
    resets (repeated readPressureCall 0 samples) = resets (pressureTaskLoop samples)

def low (sample : Sample) : Bool :=
  credible sample.pressure sample.temp && decide (sample.pressure < 75000)

/-- What a low reading costs is a reset, never a value. -/
theorem stored_agrees (sample : Sample) :
    (readPressureOn sample).1.stored = (pressureTaskOn sample).stored := by
  unfold readPressureOn pressureTaskOn
  split
  · split
    · rename_i small
      have outside : inBand sample.pressure = false := by
        rw [← Bool.not_eq_true]
        exact fun band => band_not_low _ band small
      simp [outside]
    · rfl
  · rfl

theorem reset_agrees_iff (sample : Sample) :
    (readPressureOn sample).1.reset = (pressureTaskOn sample).reset ↔ low sample = false := by
  unfold readPressureOn pressureTaskOn low
  by_cases fine : credible sample.pressure sample.temp = true <;>
    by_cases small : sample.pressure < 75000 <;> simp [fine, small]

theorem written_agrees (samples : List Sample) :
    written (repeated readPressureCall 0 samples) = written (pressureTaskLoop samples) := by
  rw [calls_verdicts, pressureTaskLoop, written, written, List.filterMap_map, List.filterMap_map]
  apply List.filterMap_congr
  intro sample _
  exact stored_agrees sample

theorem paths_agree_iff (samples : List Sample) :
    Agree samples ↔ ∀ sample ∈ samples, low sample = false := by
  constructor
  · rintro ⟨_, same⟩ sample member
    rw [calls_verdicts, pressureTaskLoop, resets, resets, List.map_map, List.map_map,
      List.map_inj_left] at same
    exact (reset_agrees_iff sample).mp (same sample member)
  · intro none_low
    refine ⟨written_agrees samples, ?_⟩
    rw [calls_verdicts, pressureTaskLoop, resets, resets, List.map_map, List.map_map,
      List.map_inj_left]
    intro sample member
    exact (reset_agrees_iff sample).mpr (none_low sample member)

/-- 689.21 hPa at 25.08 degrees, from a raw pair of the reference chip. -/
def lowSample : Sample :=
  let value := compensate referenceCalib (600000, 519888)
  ⟨value.1, value.2, (600000, 519888)⟩

theorem low_sample_drifts :
    resets (repeated readPressureCall 0 [lowSample]) = [true] ∧
      resets (pressureTaskLoop [lowSample]) = [false] ∧ ¬ Agree [lowSample] := by
  have calls : resets (repeated readPressureCall 0 [lowSample]) = [true] := by
    rw [calls_verdicts]
    decide +kernel
  have task : resets (pressureTaskLoop [lowSample]) = [false] := by decide +kernel
  refine ⟨calls, task, ?_⟩
  rintro ⟨_, same⟩
  rw [calls, task] at same
  exact absurd same (by decide)

end AirMonitor.Paths
