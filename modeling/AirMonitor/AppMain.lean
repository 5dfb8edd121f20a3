import Mathlib.Logic.Relation
import AirMonitor.Publication
import AirMonitor.Si7021
import AirMonitor.Co2

/-!
`app_main`: up to a hundred cycles over one `struct climateData` on the stack,
each of them acquiring pressure, humidity, temperature and carbon dioxide and
then posting the record. The record has no initialiser, and `read_pressure` can
return without assigning its field.
-/

namespace AirMonitor.AppMain
open Bmp280 Pressure DriverFrame Si7021 Co2

/-- The locals with which `read_pressure` left its loop, and the record that
`postWeatherServer` was called with. -/
structure Cycle where
  pressure : UInt32
  temp : Int32
  posted : ClimateData

/-- Everything that lives across cycles. The cycles, newest first, are history. -/
structure App (Env : Type) where
  driver : Driver Env
  last : Option Conversion
  data : ClimateData
  counter : UInt8
  cycles : List Cycle

variable {Env : Type} (bus : Bus Env)

def boot (env : Env) : App Env := ⟨⟨Bmp280T.zero, false, env⟩, none, .indeterminate, 0, []⟩

def App.cycle (app : App Env) (out : LoopState Env) (call : Si7021.Call) (co2 : Int) : App Env :=
  let station := readTempRh ⟨app.last, out.data⟩ call
  let data := { station.data with co2 := some co2 }
  { driver := out.driver
    last := station.last
    data := data
    counter := app.counter + 1
    cycles := ⟨out.pressure, out.temp, data⟩ :: app.cycles }

inductive Step : App Env → App Env → Prop where
  | cycle (app : App Env) (out : LoopState Env) (call : Si7021.Call) (buffer : Buffer)
      (reads : List UartRead) (co2 : Int) (rest : List UartRead) : app.counter < 100 →
      ReadPressure bus app.driver app.data out → co2Read buffer reads = some (co2, rest) →
      Step app (app.cycle out call co2)

abbrev Runs : App Env → App Env → Prop := Relation.ReflTransGen (Step bus)

/-- The pressure posted is that of a reading accepted in this or an earlier cycle. -/
def PostsDefined : List Cycle → Prop
  | [] => True
  | cycle :: older =>
      (∃ source ∈ cycle :: older, publishes (source.pressure, source.temp) = true ∧
        cycle.posted.pressure = some (hectopascal source.pressure)) ∧ PostsDefined older

/-- The first reading since boot that `read_pressure` stops at is inside the band. -/
def FirstInBand (env : Env) : Prop :=
  ∀ state, Loop.Reaches (bodyOf (readPressurePass bus))
      (entry bus (boot env).driver (boot env).data) state →
    decides (reading bus state.driver) = true → inBand (reading bus state.driver).1 = true

/-- The record still holds the pressure of the last post. -/
structure Initialised (app : App Env) : Prop where
  posts : PostsDefined app.cycles
  kept : ∃ cycle older, app.cycles = cycle :: older ∧ app.data.pressure = cycle.posted.pressure

theorem cycle_posts (app : App Env) (out : LoopState Env) (call : Si7021.Call) (co2 : Int)
    (hit : publishes (out.pressure, out.temp) = true)
    (stored : out.data = app.data.store (published (out.pressure, out.temp)))
    (posts : PostsDefined app.cycles) : Initialised (app.cycle out call co2) := by
  have assigned : out.data.pressure = some (hectopascal out.pressure) := by
    rw [stored, published, if_pos hit]
    rfl
  exact ⟨⟨⟨_, List.mem_cons_self, hit, assigned⟩, posts⟩, _, _, rfl, rfl⟩

theorem initialised_step (app next : App Env) (inv : Initialised app) (step : Step bus app next) :
    Initialised next := by
  obtain ⟨posts, latest, older, same, kept⟩ := inv
  cases step with
  | cycle out call buffer reads co2 rest running returned measured =>
      obtain ⟨state, _, value, _, stored⟩ :=
        read_pressure_returns bus app.driver app.data out returned
      rw [value] at stored
      by_cases hit : publishes (out.pressure, out.temp) = true
      · exact cycle_posts app out call co2 hit stored posts
      · -- nothing was assigned, so the record still holds what was posted last
        rw [published, if_neg hit] at stored
        have unchanged : out.data.pressure = latest.posted.pressure := by rw [stored]; exact kept
        have known := posts
        rw [same] at known
        obtain ⟨source, member, accepted, value⟩ := known.1
        refine ⟨⟨⟨source, ?_, accepted, unchanged.trans value⟩, posts⟩, _, _, rfl, rfl⟩
        rw [same]
        exact List.mem_cons_of_mem _ member

/-- A reading inside the band ends the first cycle with the field assigned. -/
theorem first_step (env : Env) (inside : FirstInBand bus env) (next : App Env)
    (step : Step bus (boot env) next) : Initialised next := by
  cases step with
  | cycle out call buffer reads co2 rest running returned measured =>
      obtain ⟨state, reached, value, decided, stored⟩ :=
        read_pressure_returns bus (boot env).driver (boot env).data out returned
      have hit := (publishes_iff _).mpr ⟨decided, inside state reached decided⟩
      rw [value] at hit stored
      exact cycle_posts _ out call co2 hit stored trivial

theorem runs_initialised (env : Env) (inside : FirstInBand bus env) (app : App Env)
    (run : Runs bus (boot env) app) : app = boot env ∨ Initialised app := by
  induction run with
  | refl => exact .inl rfl
  | tail _ step ih =>
      rcases ih with rfl | inv
      · exact .inr (first_step bus env inside _ step)
      · exact .inr (initialised_step bus _ _ inv step)

def answered : Exchange := ⟨true, true, ⟨0x7000, 0x6000⟩, (0, 0)⟩

def freshReads : List UartRead :=
  [.chunk ⟨[0xFF, 0x86, 0x01, 0x90, 0x00, 0x00, 0x00, 0x00, 0xE9], by decide⟩]

theorem fresh_reads_return (buffer : Buffer) : co2Read buffer freshReads = some (400, []) :=
  (read_some_iff buffer freshReads 400 []).mpr ⟨[], _, rfl, by simp, rfl⟩

/-- A first cycle that ends on a reading outside the band posts no defined pressure. -/
theorem outside_posts (env : Env) (state : LoopState Env)
    (reached : Loop.Reaches (bodyOf (readPressurePass bus))
      (entry bus (boot env).driver (boot env).data) state)
    (decided : decides (reading bus state.driver) = true)
    (outside : ¬ inBand (reading bus state.driver).1 = true) (call : Si7021.Call) :
    ∃ app cycle, Runs bus (boot env) app ∧ app.cycles = [cycle] ∧ cycle.posted.pressure = none := by
  obtain ⟨attached, same⟩ := read_pressure_data bus _ _ state reached
  have left := (body_leave (readPressurePass bus) state _).mpr
    ⟨(read_pressure_leaves bus state attached).trans decided, rfl⟩
  have returned : ReadPressure bus (boot env).driver (boot env).data _ :=
    Loop.returns_of_reaches _ _ _ _ reached (Loop.returns_leave _ _ _ left)
  have silent : (readPressurePass bus state).stored = none := by
    have stored := (pass_report bus .readPressure state attached).2.1
    simp only [passOf] at stored
    rw [stored, published, if_neg fun hit => outside ((publishes_iff _).mp hit).2]
  refine ⟨_, _, .single (.cycle (boot env) _ call (fun _ => 0) freshReads 400 []
    (show (0 : UInt8) < 100 by decide) returned (fresh_reads_return _)), rfl, ?_⟩
  show (state.data.store (readPressurePass bus state).stored).pressure = none
  rw [silent, same]
  rfl

/-- Every post of every run carries a defined pressure exactly when the first
reading to decide is inside the band. -/
theorem posts_defined_iff (env : Env) :
    (∀ app, Runs bus (boot env) app → PostsDefined app.cycles) ↔ FirstInBand bus env := by
  constructor
  · intro defined state reached decided
    by_contra outside
    obtain ⟨app, cycle, run, only, lost⟩ := outside_posts bus env state reached decided outside
      ⟨answered, answered⟩
    have posts := defined app run
    rw [only] at posts
    obtain ⟨⟨_, _, _, assigned⟩, _⟩ := posts
    exact absurd (lost.symm.trans assigned) (by simp)
  · intro inside app run
    rcases runs_initialised bus env inside app run with rfl | inv
    · exact trivial
    · exact inv.posts

def highlandFrame : List UInt8 := [0x79, 0x5A, 0xC0, 0x7E, 0xED, 0x00]

/-- 865.48 hPa, on the mountain or in a deep low: read, refused and posted anyway. -/
theorem highland_posts_indeterminate :
    let bus := (Sensor.steadyChip Publication.chip58 Publication.referenceCalib highlandFrame).bus
      Publication.failOne
    ∃ app cycle, Runs bus (boot ⟨[], 0, 0⟩) app ∧ app.cycles = [cycle] ∧
      cycle.posted.pressure = none :=
  outside_posts _ _ _ .start (by decide +kernel) (by decide +kernel) ⟨answered, answered⟩

end AirMonitor.AppMain
