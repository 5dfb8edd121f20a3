import Mathlib.Data.List.Forall2
import AirMonitor.AppMain
import AirMonitor.Report

/-!
Whole runs of `app_main` as the server sees them. The log of what the cycles
acquired determines every record that is posted: three fields are those of the
posting cycle, the pressure is the newest one that `read_pressure` assigned.
-/

namespace AirMonitor.Delivery
open Bytes Bmp280 Pressure DriverFrame Si7021 Co2 AppMain Report Http Json

variable {Env : Type} (bus : Bus Env)

/-- What one cycle acquired: the reading with which `read_pressure` left its loop,
both codes of the humidity sensor and the concentration. -/
structure Acquired where
  pressure : UInt32
  temp : Int32
  humidity : UInt16
  temperature : UInt16
  co2 : Int

/-! The record that a log leaves, newest cycle first. -/

def newest (log : List Acquired) : Option ℚ :=
  log.findSome? fun acquired => published (acquired.pressure, acquired.temp)

def record : List Acquired → ClimateData
  | [] => .indeterminate
  | latest :: older =>
      { temperature := some (temperatureOf latest.temperature)
        humidity := some (humidityOf latest.humidity)
        pressure := newest (latest :: older)
        co2 := some latest.co2 }

/-- The logs at which a run posts, one for each cycle. -/
def histories : List Acquired → List (List Acquired)
  | [] => []
  | latest :: older => (latest :: older) :: histories older

/-- The reading is one that decides, and the concentration comes from a frame
that passes. -/
def Genuine (acquired : Acquired) : Prop :=
  decides (acquired.pressure, acquired.temp) = true ∧
    ∃ frame, passes frame = true ∧ acquired.co2 = ppm frame

def acquire (app : App Env) (out : LoopState Env) (call : Si7021.Call) (co2 : Int) : Acquired where
  pressure := out.pressure
  temp := out.temp
  humidity := humidityCode ⟨app.last, out.data⟩ call
  temperature := temperatureCode ⟨app.last, out.data⟩ call
  co2 := co2

/-- The steps of `app_main` with what each of them acquired. -/
inductive Logged (env : Env) : List Acquired → App Env → Prop where
  | boot : Logged env [] (AppMain.boot env)
  | cycle (log : List Acquired) (app : App Env) (out : LoopState Env) (call : Si7021.Call)
      (buffer : Buffer) (reads : List UartRead) (co2 : Int) (rest : List UartRead) :
      Logged env log app → app.counter < 100 → ReadPressure bus app.driver app.data out →
      co2Read buffer reads = some (co2, rest) →
      Logged env (acquire app out call co2 :: log) (app.cycle out call co2)

theorem runs_logged (env : Env) (app : App Env) :
    Runs bus (AppMain.boot env) app ↔ ∃ log, Logged bus env log app := by
  constructor
  · intro run
    induction run with
    | refl => exact ⟨[], .boot⟩
    | tail _ step ih =>
        obtain ⟨log, logged⟩ := ih
        cases step with
        | cycle out call buffer reads co2 rest running returned measured =>
            exact ⟨_, .cycle log _ out call buffer reads co2 rest logged running returned measured⟩
  · rintro ⟨log, logged⟩
    induction logged with
    | boot => exact .refl
    | cycle log app out call buffer reads co2 rest _ running returned measured ih =>
        exact ih.tail (.cycle app out call buffer reads co2 rest running returned measured)

/-- The state of a run from its log. -/
structure Recorded (log : List Acquired) (app : App Env) : Prop where
  data : app.data = record log
  posts : app.cycles.map Cycle.posted = (histories log).map record
  counted : app.counter.toNat = log.length
  bounded : log.length ≤ 100
  genuine : ∀ acquired ∈ log, Genuine acquired

theorem record_pressure (log : List Acquired) : (record log).pressure = newest log := by
  cases log with
  | nil => rfl
  | cons latest older => rfl

theorem stored_pressure (data : ClimateData) (stored : Option ℚ) :
    (data.store stored).pressure = stored.or data.pressure := by
  cases stored with
  | none => rfl
  | some value => rfl

theorem newest_cons (latest : Acquired) (older : List Acquired) :
    newest (latest :: older) =
      (published (latest.pressure, latest.temp)).or (newest older) := by
  rw [newest, List.findSome?_cons]
  cases published (latest.pressure, latest.temp) with
  | none => rfl
  | some value => rfl

/-- One cycle turns the record of the log into that of the longer log. -/
theorem cycle_record (log : List Acquired) (app : App Env) (out : LoopState Env)
    (call : Si7021.Call) (co2 : Int) (before : app.data = record log)
    (stored : out.data = app.data.store (published (out.pressure, out.temp))) :
    (app.cycle out call co2).data = record (acquire app out call co2 :: log) := by
  have pressure : out.data.pressure = newest (acquire app out call co2 :: log) := by
    rw [stored, stored_pressure, before, record_pressure, newest_cons]
    rfl
  simp only [App.cycle, readTempRh, record, pressure, acquire]

theorem cycle_genuine (driver : Driver Env) (data : ClimateData) (out : LoopState Env)
    (returned : ReadPressure bus driver data out) (buffer : Buffer) (reads rest : List UartRead)
    (co2 : Int) (measured : co2Read buffer reads = some (co2, rest)) :
    decides (out.pressure, out.temp) = true ∧ ∃ frame, passes frame = true ∧ co2 = ppm frame := by
  constructor
  · obtain ⟨state, _, value, decided, _⟩ := read_pressure_returns bus driver data out returned
    rwa [value] at decided
  · obtain ⟨_, read, _, _, taken⟩ := (read_some_iff buffer reads co2 rest).mp measured
    cases read with
    | error => simp [accepted] at taken
    | timeout => simp [accepted] at taken
    | chunk bytes =>
        by_cases passed : passes bytes.1 = true
        · rw [accepted, if_pos passed, Option.some.injEq] at taken
          exact ⟨bytes.1, passed, taken.symm⟩
        · rw [accepted, if_neg passed] at taken
          exact absurd taken (by simp)

theorem logged_recorded (env : Env) (log : List Acquired) (app : App Env)
    (logged : Logged bus env log app) : Recorded log app := by
  induction logged with
  | boot => exact ⟨rfl, rfl, rfl, Nat.zero_le _, by simp⟩
  | cycle log app out call buffer reads co2 rest _ running returned measured ih =>
      obtain ⟨state, _, value, _, stored⟩ :=
        read_pressure_returns bus app.driver app.data out returned
      rw [value] at stored
      have data := cycle_record log app out call co2 ih.data stored
      have small : app.counter.toNat < 100 := UInt8.lt_iff_toNat_lt.mp running
      have next : (app.counter + 1).toNat = log.length + 1 := by
        rw [UInt8.toNat_add, UInt8.toNat_one, Nat.mod_eq_of_lt (by omega), ih.counted]
      refine ⟨data, ?_, next, ?_, ?_⟩
      · rw [histories, List.map_cons, ← ih.posts, ← data]
        rfl
      · rw [List.length_cons, ← ih.counted]
        exact small
      · intro acquired member
        rcases List.mem_cons.mp member with rfl | before
        · exact cycle_genuine bus app.driver app.data out returned buffer reads rest co2 measured
        · exact ih.genuine acquired before

/-! What becomes of one post. -/

/-- The socket was reached. -/
def Reached (network : Network) : Prop :=
  network.lookup = true ∧ network.socket = true ∧ network.connect = true

instance (network : Network) : Decidable (Reached network) :=
  inferInstanceAs (Decidable (_ ∧ _ ∧ _))

/-- Both texts fit their buffers, what goes out is the front of the request that the
socket took, and a reader of the whole request gets the record. -/
structure Delivered (network : Network) (measured : Measured) (post : Post) : Prop where
  fits : (stringAt post.requestData).length < 300 ∧ (stringAt post.request).length < 512
  sent : post.sent =
    if Reached network then some ((stringAt post.request).take network.write.sent) else none
  logged : post.trouble = none ↔ Reached network ∧ 0 ≤ network.write.value
  framed : ∃ head, splitFirst blankLine (stringAt post.request) = some (head, measured.body) ∧
    contentLength head = some measured.body.length
  read : ∃ parsed, parseObject measured.body = some parsed ∧ Reads measured parsed

theorem send_reached (network : Network) (request : List UInt8) :
    (network.send request).1 =
        (if Reached network then some ((stringAt request).take network.write.sent) else none) ∧
      ((network.send request).2 = none ↔ Reached network ∧ 0 ≤ network.write.value) := by
  obtain ⟨lookup, socket, connect, write⟩ := network
  cases lookup <;> cases socket <;> cases connect <;>
    cases write <;> simp [Network.send, Reached, Written.value, Written.sent, Int.not_lt_of_ge]

theorem post_sent (url server : CString) (network : Network) (data : ClimateData)
    (request requestData : List UInt8) (post : Post)
    (posted : postWeatherServer url server network data request requestData = some post) :
    (post.sent, post.trouble) = network.send post.request := by
  simp only [postWeatherServer, Option.bind_eq_bind, Option.bind_eq_some_iff,
    Option.some.injEq] at posted
  obtain ⟨_, _, _, _, _, _, _, _, _, _, _, _, rfl⟩ := posted
  rfl

theorem measured_delivered (url server : CString) (oneUrl : OneLine url.1)
    (oneServer : OneLine server.1) (short : url.1.length + server.1.length ≤ 300)
    (network : Network) (measured : Measured) (request requestData : List UInt8)
    (sizeData : requestData.length = 300) (size : request.length = 512) :
    ∃ post, postWeatherServer url server network measured.data request requestData = some post ∧
      Delivered network measured post := by
  obtain ⟨post, posted, body, message, fits⟩ :=
    posts url server network measured request requestData sizeData size short
  have small := body_short measured
  have outcome := post_sent url server network _ request requestData post posted
  have reached := send_reached network post.request
  rw [← outcome] at reached
  refine ⟨post, posted, ⟨by rw [body]; omega, fits⟩, reached.1, reached.2, ?_, body_reads measured⟩
  · rw [message]
    exact ⟨_, split_request url.1 server.1 oneUrl oneServer _ _,
      request_content_length url.1 server.1 oneUrl oneServer _⟩

/-- A record without a pressure is read before it is printed. -/
theorem undefined_post (url server : CString) (network : Network) (data : ClimateData)
    (request requestData : List UInt8) (missing : data.pressure = none) :
    postWeatherServer url server network data request requestData = none := by
  cases temperature : data.temperature with
  | none => simp [postWeatherServer, temperature]
  | some warm =>
      cases humidity : data.humidity with
      | none => simp [postWeatherServer, temperature, humidity]
      | some humid => simp [postWeatherServer, temperature, humidity, missing]

theorem ppm_bounds (frame : List UInt8) : 0 ≤ ppm frame ∧ ppm frame ≤ 65535 := by
  have high := (byteAt frame 2).toNat_lt
  have low := (byteAt frame 3).toNat_lt
  rw [ppm]
  omega

theorem published_band (value : UInt32 × Int32) (pressure : ℚ)
    (stored : published value = some pressure) :
    90000 < value.1.toNat ∧ value.1.toNat < 110000 ∧ pressure = hectopascal value.1 := by
  by_cases hit : publishes value = true
  · rw [published, if_pos hit, Option.some.injEq] at stored
    have band := ((publishes_iff value).mp hit).2
    simp only [inBand, Bool.and_eq_true, decide_eq_true_eq, UInt32.lt_iff_toNat_lt] at band
    exact ⟨band.2, band.1, stored.symm⟩
  · rw [published, if_neg hit] at stored
    exact absurd stored (by simp)

/-- With a reading assigned so far, the record is one that the encoder takes. -/
theorem record_measured (latest : Acquired) (older : List Acquired) (genuine : Genuine latest)
    (pressure : ℚ) (assigned : newest (latest :: older) = some pressure) :
    ∃ measured : Measured, measured.data = record (latest :: older) := by
  obtain ⟨source, _, stored⟩ := List.exists_of_findSome?_eq_some assigned
  obtain ⟨above, below, value⟩ := published_band _ pressure stored
  obtain ⟨_, frame, _, same⟩ := genuine
  refine ⟨⟨latest.temperature, latest.humidity, ⟨source.pressure, above, below⟩,
    ⟨latest.co2, ?_⟩⟩, ?_⟩
  · rw [same]
    exact ppm_bounds frame
  · rw [Measured.data, record, assigned, value]

/-- One post after the given history: undefined while no reading has been inside
the band, and delivered from then on. -/
def Outcome (url server : CString) (history : List Acquired) (data : ClimateData) : Prop :=
  data = record history ∧
    ∀ network request requestData, requestData.length = 300 → request.length = 512 →
      (newest history = none ∧
        postWeatherServer url server network data request requestData = none) ∨
      ∃ measured post, measured.data = record history ∧
        postWeatherServer url server network data request requestData = some post ∧
        Delivered network measured post

section Posts
variable (url server : CString) (oneUrl : OneLine url.1) (oneServer : OneLine server.1)
  (short : url.1.length + server.1.length ≤ 300)

include oneUrl oneServer short in
theorem record_outcome (latest : Acquired) (older : List Acquired) (genuine : Genuine latest) :
    Outcome url server (latest :: older) (record (latest :: older)) := by
  refine ⟨rfl, ?_⟩
  intro network request requestData sizeData size
  cases assigned : newest (latest :: older) with
  | none =>
      left
      exact ⟨rfl, undefined_post url server network _ request requestData assigned⟩
  | some pressure =>
      right
      obtain ⟨measured, same⟩ := record_measured latest older genuine pressure assigned
      obtain ⟨post, posted, delivered⟩ := measured_delivered url server oneUrl oneServer short
        network measured request requestData sizeData size
      rw [same] at posted
      exact ⟨measured, post, same, posted, delivered⟩

include oneUrl oneServer short in
theorem records_outcome (log : List Acquired) (genuine : ∀ acquired ∈ log, Genuine acquired) :
    List.Forall₂ (fun history data => Outcome url server history data) (histories log)
      ((histories log).map record) := by
  induction log with
  | nil => exact .nil
  | cons latest older ih =>
      have now := genuine latest List.mem_cons_self
      have before := ih fun acquired member => genuine acquired (List.mem_cons_of_mem _ member)
      exact .cons (record_outcome url server oneUrl oneServer short latest older now) before

include oneUrl oneServer short in
theorem runs_delivered (env : Env) (app : App Env) (run : Runs bus (AppMain.boot env) app) :
    ∃ log, Logged bus env log app ∧ app.counter.toNat = log.length ∧ log.length ≤ 100 ∧
      List.Forall₂ (fun history cycle => Outcome url server history cycle.posted)
        (histories log) app.cycles := by
  obtain ⟨log, logged⟩ := (runs_logged bus env app).mp run
  have recorded := logged_recorded bus env log app logged
  have outcomes := records_outcome url server oneUrl oneServer short log recorded.genuine
  rw [← recorded.posts] at outcomes
  exact ⟨log, logged, recorded.counted, recorded.bounded, List.forall₂_map_right_iff.mp outcomes⟩

end Posts

/-- A cycle whose first reading decides. -/
def firstTry (app : App Env) : App Env :=
  let start := entry bus app.driver app.data
  app.cycle (start.after (readPressurePass bus start)) ⟨answered, answered⟩ 400

theorem first_try_step (app : App Env) (small : app.counter < 100)
    (decided : decides (reading bus (entry bus app.driver app.data).driver) = true) :
    AppMain.Step bus app (firstTry bus app) := by
  have attached := entry_attached bus app.driver app.data
  have left := (body_leave (readPressurePass bus) _ _).mpr
    ⟨(read_pressure_leaves bus _ attached).trans decided, rfl⟩
  have returned : ReadPressure bus app.driver app.data _ := Loop.returns_leave _ _ _ left
  exact .cycle app _ ⟨answered, answered⟩ (fun _ => 0) freshReads 400 [] small returned
    (fresh_reads_return _)

/-- 865.48 hPa at first, then 1006.56 hPa; the data transfer of the third call fails. -/
def fallingBus : Bus Sensor.ChipState :=
  Sensor.Chip.bus { Sensor.steadyChip Publication.chip58 Publication.referenceCalib
      Publication.referenceFrame with
    sample := fun left => byteAt (if 20 < left then highlandFrame else Publication.referenceFrame) }
    Publication.failOne

def fallingStart : App Sensor.ChipState :=
  AppMain.boot ⟨List.replicate 35 .done ++ [Publication.cutAfter 0 []], 0, 0⟩

def thirdApp : App Sensor.ChipState :=
  firstTry fallingBus (firstTry fallingBus (firstTry fallingBus fallingStart))

theorem third_run : Runs fallingBus fallingStart thirdApp := by
  have first := first_try_step fallingBus fallingStart (by decide) (by decide +kernel)
  have second := first_try_step fallingBus _ (by decide +kernel)
    (show decides (reading fallingBus (entry fallingBus (firstTry fallingBus fallingStart).driver
      (firstTry fallingBus fallingStart).data).driver) = true by decide +kernel)
  have third := first_try_step fallingBus (firstTry fallingBus (firstTry fallingBus fallingStart))
    (by decide +kernel) (by decide +kernel)
  exact ((Relation.ReflTransGen.single first).tail second).tail third

theorem runs_delivered_falling :
    let url : CString := ⟨Printf.ascii "/api/climate", by decide⟩
    let server : CString := ⟨Printf.ascii "example", by decide⟩
    thirdApp.cycles.map (fun cycle => cycle.posted.pressure) =
        [some (100656 / 100), some (100656 / 100), none] ∧
      ∃ log, Logged fallingBus ⟨List.replicate 35 .done ++ [Publication.cutAfter 0 []], 0, 0⟩ log
          thirdApp ∧
        thirdApp.counter.toNat = log.length ∧ log.length ≤ 100 ∧
        List.Forall₂ (fun history cycle => Outcome url server history cycle.posted)
          (histories log) thirdApp.cycles := by
  intro url server
  exact ⟨by decide +kernel,
    runs_delivered fallingBus url server (by decide) (by decide) (by decide) _ thirdApp third_run⟩

end AirMonitor.Delivery
