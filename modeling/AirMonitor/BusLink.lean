import AirMonitor.I2c
import AirMonitor.Sensor

/-!
`BMP280_I2C_bus_write` and `BMP280_I2C_bus_read` of `pressure.c`, command by
command. Whatever becomes of the commands, a read leaves the first bytes of what
the sensor holds in front of what the buffer held, and a write is made or not made.
-/

namespace AirMonitor.BusLink
open Bytes Bmp280 Sensor I2c

/-- The link that `BMP280_I2C_bus_write` queues. -/
def busWriteLink (devAddr regAddr : UInt8) (regData : List UInt8) (cnt : UInt8) : List Command :=
  opening devAddr .write ++ ([.writeByte regAddr true] ++
    (writeBytes (regData.take cnt.toNat) true ++ [.stop]))

/-- The link that `BMP280_I2C_bus_read` queues. -/
def busReadLink (devAddr regAddr cnt : UInt8) : List Command :=
  opening devAddr .write ++ ([.writeByte regAddr true] ++ (opening devAddr .read ++
    ((if cnt > 1 then readBytes 0 (cnt.toNat - 1) else []) ++
      -- for a count of zero this is the byte in front of the buffer
      [.readByte ((cnt.toNat : Int) - 1) true, .stop])))

universe u
variable {Regs : Type u} (address : UInt8) (get : Regs → UInt8 → UInt8)
  (put : Regs → UInt8 → UInt8 → Regs)

def contents (regs : Regs) (regAddr : UInt8) (count : Nat) : List UInt8 :=
  (List.range count).map fun i => get regs (regAddr + UInt8.ofNat i)

theorem sent_contents (count : Nat) (cells : Cells Regs) :
    sent (registerDevice address get put) count cells =
      contents get cells.regs cells.pointer count := sent_registers address get put count cells

def Keeping (regs : Regs) (cells : Cells Regs) : Prop := cells.regs = regs

theorem keeping_given (regs : Regs) (cells : Cells Regs) (kept : Keeping regs cells) :
    Keeping regs ((registerDevice address get put).give cells).2 := kept

theorem keeping_released (regs : Regs) (cells : Cells Regs) (kept : Keeping regs cells) :
    Keeping regs ((registerDevice address get put).release cells) := kept

theorem register_willing (cells : Cells Regs) (value : UInt8) :
    ((registerDevice address get put).take cells value).1 = true := rfl

/-- The first bytes asked for in front of the old ones, and the registers as they were. -/
structure Partly (regs : Regs) (regAddr : UInt8) (buffer : List UInt8) (count : Nat)
    (wire : Wire (Cells Regs)) : Prop where
  kept : wire.device.regs = regs
  some : ∃ received, received ≤ count ∧
    wire.buffer = contents get regs regAddr received ++ buffer.drop received
  inside : wire.stray = false

theorem still_partly (regs : Regs) (regAddr : UInt8) (buffer : List UInt8) (count : Nat)
    (wire : Wire (Cells Regs)) (still : Still (Keeping regs) buffer wire) :
    Partly get regs regAddr buffer count wire :=
  ⟨still.kept, ⟨0, Nat.zero_le _, still.buffer⟩, still.inside⟩

/-- The condition of the source only leaves out an empty row. -/
theorem row_whole (cnt : UInt8) :
    (if cnt > 1 then readBytes 0 (cnt.toNat - 1) else []) = readBytes 0 (cnt.toNat - 1) := by
  by_cases more : cnt > 1
  · rw [if_pos more]
  · have bound : ¬ 1 < cnt.toNat := fun above => more (UInt8.lt_iff_toNat_lt.mpr above)
    have none : cnt.toNat - 1 = 0 := by omega
    rw [if_neg more, none]
    rfl

theorem bytes_hold (regs : Regs) (regAddr : UInt8) (buffer : List UInt8) (cnt : UInt8)
    (room : cnt.toNat ≤ buffer.length) (some : 0 < cnt.toNat) :
    Holds (registerDevice address get put)
      ((if cnt > 1 then readBytes 0 (cnt.toNat - 1) else []) ++
        [.readByte ((cnt.toNat : Int) - 1) true, .stop])
      (Talking .sending buffer ⟨regs, regAddr, true⟩)
      (fun wire => wire.device.regs = regs ∧ wire.stray = false ∧
        wire.buffer = contents get regs regAddr cnt.toNat ++ buffer.drop cnt.toNat)
      (Partly get regs regAddr buffer cnt.toNat) := by
  have burst := holds_burst (registerDevice address get put) (Keeping regs)
    (keeping_given address get put regs) (keeping_released address get put regs) (cnt.toNat - 1) []
    buffer (by omega) ⟨regs, regAddr, true⟩ rfl
  have whole : cnt.toNat - 1 + 1 = cnt.toNat := by omega
  have place : ((([] : List UInt8).length + (cnt.toNat - 1) : Nat) : Int) = (cnt.toNat : Int) - 1 := by
    simp only [List.length_nil]
    omega
  rw [place, whole, List.nil_append, sent_contents] at burst
  rw [row_whole]
  refine holds_weaken _ _ _ _ _ _ _ _ (fun _ talking => talking) (fun _ told => told) ?_ burst
  · rintro wire ⟨kept, ⟨received, bound, partly⟩, inside⟩
    refine ⟨kept, ⟨received, bound, ?_⟩, inside⟩
    rw [partly, sent_contents, List.nil_append]

section Reads
variable (devAddr regAddr : UInt8) (cells : Cells Regs) (buffer : List UInt8) (cnt : UInt8)

theorem read_holds (answers : (devAddr <<< 1) >>> 1 = address)
    (room : cnt.toNat ≤ buffer.length) (some : 0 < cnt.toNat) :
    Holds (registerDevice address get put) (busReadLink devAddr regAddr cnt)
      (fun wire => ∃ role, Talking role buffer cells wire)
      (fun wire => wire.device.regs = cells.regs ∧ wire.stray = false ∧
        wire.buffer = contents get cells.regs regAddr cnt.toNat ++ buffer.drop cnt.toNat)
      (Partly get cells.regs regAddr buffer cnt.toNat) := by
  have partly := still_partly get cells.regs regAddr buffer cnt.toNat
  have released := keeping_released address get put cells.regs
  have open_write := holds_opening (registerDevice address get put) (Keeping cells.regs) released
    cells rfl buffer devAddr answers .write rfl
  have naming := holds_take (registerDevice address get put) (Keeping cells.regs) released
    { cells with named := false } rfl buffer (register_willing address get put) regAddr true rfl
  have open_read := holds_opening (registerDevice address get put) (Keeping cells.regs) released
    ⟨cells.regs, regAddr, true⟩ rfl buffer devAddr answers .read rfl
  have bytes := bytes_hold address get put cells.regs regAddr buffer cnt room some
  refine holds_append _ _ _ _ _ _ _ (holds_weaken _ _ _ _ _ _ _ _ (fun _ before => before)
    (fun _ after => after) partly open_write) ?_
  refine holds_append _ _ _ _ _ _ _ (holds_weaken _ _ _ _ _ _ _ _ (fun _ before => before)
    (fun _ after => after) partly naming) ?_
  exact holds_append _ _ _ _ _ _ _ (holds_weaken _ _ _ _ _ _ _ _
    (fun _ before => ⟨_, before⟩) (fun _ after => after) partly open_read) bytes

theorem read_unanswered (silent : (devAddr <<< 1) >>> 1 ≠ address) :
    Holds (registerDevice address get put) (busReadLink devAddr regAddr cnt)
      (fun wire => ∃ role, Talking role buffer cells wire) (fun _ => False)
      (Still (Keeping cells.regs) buffer) :=
  holds_append _ _ _ _ _ _ _
    (holds_unanswered (registerDevice address get put) (Keeping cells.regs)
      (keeping_released address get put cells.regs) cells rfl buffer devAddr silent .write)
    (holds_absurd _ _ _ _)

end Reads

theorem read_accepted (devAddr regAddr cnt : UInt8) (answers : (devAddr <<< 1) >>> 1 = address) :
    accepts address .free (busReadLink devAddr regAddr cnt) = true := by
  have open_read :
      accepts address .listening (opening devAddr .read ++ (readBytes 0 (cnt.toNat - 1) ++
        [.readByte ((cnt.toNat : Int) - 1) true, .stop])) = true := by
    rw [accepts_opening address devAddr answers]
    exact accepts_reads address _ 0 _
  rw [busReadLink, row_whole, accepts_opening address devAddr answers]
  exact open_read

theorem write_accepted (devAddr regAddr : UInt8) (regData : List UInt8) (cnt : UInt8)
    (answers : (devAddr <<< 1) >>> 1 = address) :
    accepts address .free (busWriteLink devAddr regAddr regData cnt) = true := by
  have data : accepts address .listening (writeBytes (regData.take cnt.toNat) true ++ [.stop]) =
      true := accepts_writes address _ true _
  rw [busWriteLink, accepts_opening address devAddr answers]
  exact data

/-- The values taken so far, in pairs with the registers they name. -/
theorem write_holds (devAddr regAddr : UInt8) (cells : Cells Regs) (buffer regData : List UInt8)
    (cnt : UInt8) (answers : (devAddr <<< 1) >>> 1 = address) :
    let device := registerDevice address get put
    let data := regData.take cnt.toNat
    let after (count : Nat) := (taken device (data.take count) ⟨cells.regs, regAddr, true⟩).regs
    Holds device (busWriteLink devAddr regAddr regData cnt)
      (fun wire => ∃ role, Talking role buffer cells wire)
      (Still (Keeping (after data.length)) buffer)
      (fun wire => ∃ count, Still (Keeping (after count)) buffer wire) := by
  intro device data after
  have all : after data.length = (taken device data ⟨cells.regs, regAddr, true⟩).regs := by
    simp only [after, List.take_length]
  have none (wire : Wire (Cells Regs)) (still : Still (Keeping cells.regs) buffer wire) :
      ∃ count, Still (Keeping (after count)) buffer wire := ⟨0, still⟩
  have released := keeping_released address get put cells.regs
  have open_write := holds_opening device (Keeping cells.regs) released cells rfl buffer devAddr
    answers .write rfl
  have naming := holds_take device (Keeping cells.regs) released { cells with named := false } rfl
    buffer (register_willing address get put) regAddr true rfl
  have writes := holds_writes device (register_willing address get put) data buffer true
    ⟨cells.regs, regAddr, true⟩
  have stop := holds_stop device (Keeping (after data.length))
    (keeping_released address get put (after data.length))
    (taken device data ⟨cells.regs, regAddr, true⟩) all.symm buffer .listening
  refine holds_append _ _ _ _ _ _ _ (holds_weaken _ _ _ _ _ _ _ _ (fun _ before => before)
    (fun _ after => after) none open_write) ?_
  refine holds_append _ _ _ _ _ _ _ (holds_weaken _ _ _ _ _ _ _ _ (fun _ before => before)
    (fun _ after => after) none naming) ?_
  refine holds_append _ _ _ _ _ _ _ (holds_weaken _ _ _ _ _ _ _ _ (fun _ before => before)
    (fun _ after => after) ?_ writes) (holds_weaken _ _ _ _ _ _ _ _ (fun _ before => before)
    ?_ (fun _ still => ⟨data.length, still⟩) stop)
  · rintro wire ⟨held, inside, count, same⟩
    exact ⟨count, congrArg Cells.regs same, held, inside⟩
  · intro wire talking
    exact ⟨(congrArg Cells.regs talking.device).trans all.symm, talking.buffer, talking.inside⟩

theorem write_unanswered (devAddr regAddr : UInt8) (cells : Cells Regs)
    (buffer regData : List UInt8) (cnt : UInt8) (silent : (devAddr <<< 1) >>> 1 ≠ address) :
    Holds (registerDevice address get put) (busWriteLink devAddr regAddr regData cnt)
      (fun wire => ∃ role, Talking role buffer cells wire) (fun _ => False)
      (Still (Keeping cells.regs) buffer) :=
  holds_append _ _ _ _ _ _ _
    (holds_unanswered (registerDevice address get put) (Keeping cells.regs)
      (keeping_released address get put cells.regs) cells rfl buffer devAddr silent .write)
    (holds_absurd _ _ _ _)

theorem write_one_holds (devAddr regAddr value : UInt8) (cells : Cells Regs)
    (answers : (devAddr <<< 1) >>> 1 = address) :
    Holds (registerDevice address get put) (busWriteLink devAddr regAddr [value] 1)
      (fun wire => ∃ role, Talking role [] cells wire)
      (fun wire => wire.device.regs = put cells.regs regAddr value)
      (fun wire => wire.device.regs = cells.regs ∨
        wire.device.regs = put cells.regs regAddr value) := by
  have write := write_holds address get put devAddr regAddr cells [] [value] 1 answers
  refine holds_weaken _ _ _ _ _ _ _ _ (fun _ before => before) (fun _ still => still.kept) ?_ write
  rintro wire ⟨count, still⟩
  cases count with
  | zero => exact .inl still.kept
  | succ count =>
      have whole : List.take (count + 1) (List.take (UInt8.toNat 1) [value]) = [value] := by simp
      have kept := still.kept
      simp only [whole] at kept
      exact .inr kept

/-! Where the bytes of a read go. -/

theorem stray_stored (wire : Wire (Cells Regs)) (place : Int) (value : UInt8)
    (outside : place < 0 ∨ wire.buffer.length ≤ place.toNat) :
    (wire.store place value).stray = true := by
  rw [Wire.store, if_neg]
  omega

/-- A link that runs to its end with no place for its last byte. -/
theorem read_strays (devAddr regAddr cnt : UInt8) (size : Nat)
    (wrong : cnt.toNat = 0 ∨ size < cnt.toNat) :
    Holds (registerDevice address get put) (busReadLink devAddr regAddr cnt)
      (fun wire => wire.buffer.length = size) (fun wire => wire.stray = true)
      (fun _ => True) := by
  have row (link : List Command) : Holds (registerDevice address get put) link
      (fun wire => wire.buffer.length = size) (fun wire => wire.buffer.length = size)
      (fun _ => True) :=
    holds_weaken _ _ _ _ _ _ _ _ (fun _ same => same) (fun _ same => same) (fun _ _ => trivial)
      (holds_length _ link size)
  refine holds_append _ _ _ _ _ _ _ (row _) (holds_append _ _ _ _ _ _ _ (row _)
    (holds_append _ _ _ _ _ _ _ (row _) (holds_append _ _ _ _ _ _ _ (row _) ?_)))
  apply holds_cons _ _ (fun wire => wire.stray = true)
  · exact fun _ _ => trivial
  · exact fun _ _ => trivial
  · intro wire same _
    have outside : (cnt.toNat : Int) - 1 < 0 ∨
        wire.buffer.length ≤ ((cnt.toNat : Int) - 1).toNat := by
      omega
    cases role : wire.role <;> simp only [carry, role] <;> exact stray_stored _ _ _ outside
  · apply holds_cons _ _ (fun wire => wire.stray = true)
    · exact fun _ _ => trivial
    · exact fun _ _ => trivial
    · exact fun _ stray _ => stray
    · exact holds_nil _ _ _ _ fun _ stray => stray

/-- `BMP280_I2C_bus_read` keeps to its buffer, whatever becomes of the commands,
exactly for counts from one up to the size of the buffer. -/
theorem read_inside_iff (devAddr regAddr cnt : UInt8) (cells : Cells Regs)
    (buffer : List UInt8) :
    (∀ fates, (execute (registerDevice address get put) fates (busReadLink devAddr regAddr cnt)
      ⟨.free, cells, buffer, false⟩).2.stray = false) ↔
      ((devAddr <<< 1) >>> 1 = address → 0 < cnt.toNat ∧ cnt.toNat ≤ buffer.length) := by
  have begins : ∃ role, Talking role buffer cells ⟨.free, cells, buffer, false⟩ :=
    ⟨.free, rfl, rfl, rfl, rfl⟩
  constructor
  · intro inside answers
    by_contra wrong
    have ran := ran_of_through (registerDevice address get put) (register_willing address get put)
      (busReadLink devAddr regAddr cnt) (fun _ => .through) (fun _ _ => rfl)
      ⟨.free, cells, buffer, false⟩ (read_accepted address devAddr regAddr cnt answers)
    have strays := (read_strays address get put devAddr regAddr cnt buffer.length (by omega)
      (fun _ => .through) ⟨.free, cells, buffer, false⟩ rfl).1 ran
    exact Bool.noConfusion ((inside fun _ => .through).symm.trans strays)
  · intro sizes fates
    by_cases answers : (devAddr <<< 1) >>> 1 = address
    · obtain ⟨some, room⟩ := sizes answers
      have read := read_holds address get put devAddr regAddr cells buffer cnt answers room some
      exact holds_either _ _ _ _ _ (fun wire => wire.stray = false) read
        (fun _ told => told.2.1) (fun _ partly => partly.inside) fates _ begins
    · have silent := read_unanswered address get put devAddr regAddr cells buffer cnt answers
      exact holds_either _ _ _ _ _ (fun wire => wire.stray = false) silent
        (fun _ never => never.elim) (fun _ still => still.inside) fates _ begins

/-! The two functions as the driver's bus. -/

/-- What will become of the commands, link by link. -/
structure Line (Regs : Type u) where
  cells : Cells Regs
  fates : Nat → Nat → Fate

section Bus
variable {Regs : Type} (address : UInt8) (get : Regs → UInt8 → UInt8)
  (put : Regs → UInt8 → UInt8 → Regs)
  -- what the sensor does by itself before a link reaches it
  (turn : Regs → Regs)

def Line.wire (line : Line Regs) (buffer : List UInt8) : Wire (Cells Regs) :=
  ⟨.free, { line.cells with regs := turn line.cells.regs }, buffer, false⟩

def Line.after (line : Line Regs) (wire : Wire (Cells Regs)) : Line Regs :=
  ⟨wire.device, fun i => line.fates (i + 1)⟩

theorem link_length (line : Line Regs) (buffer : List UInt8) (link : List Command) :
    (execute (registerDevice address get put) (line.fates 0) link
      (line.wire turn buffer)).2.buffer.length = buffer.length :=
  holds_either _ _ _ _ link (fun wire => wire.buffer.length = buffer.length)
    (holds_length _ link buffer.length) (fun _ same => same) (fun _ same => same) _ _ rfl

def linkBus (fail : Fail) : Bus (Line Regs) where
  write line devAddr regAddr regData :=
    let done := execute (registerDevice address get put) (line.fates 0)
      (busWriteLink devAddr regAddr regData (UInt8.ofNat regData.length)) (line.wire turn [])
    (done.1, line.after done.2)
  read line devAddr regAddr regData :=
    let done := execute (registerDevice address get put) (line.fates 0)
      (busReadLink devAddr regAddr (UInt8.ofNat regData.length)) (line.wire turn regData)
    (done.1, done.2.buffer, line.after done.2)
  readLength line _ _ regData := link_length address get put turn line regData _
  fail := fail.1
  failNonzero := fail_nonzero fail

/-- A link succeeds when the sensor is addressed and no command is lost. -/
def Succeeds (line : Line Regs) (devAddr : UInt8) (link : List Command) : Prop :=
  (devAddr <<< 1) >>> 1 = address ∧ ∀ i, i < link.length → line.fates 0 i = .through

structure ReadContract (line : Line Regs) (devAddr regAddr : UInt8) (buffer : List UInt8)
    (got : Bool × List UInt8 × Line Regs) : Prop where
  status : got.1 = true ↔
    Succeeds address line devAddr (busReadLink devAddr regAddr (UInt8.ofNat buffer.length))
  told : got.1 = true → got.2.1 = contents get (turn line.cells.regs) regAddr buffer.length
  partly : ∃ received, received ≤ buffer.length ∧
    got.2.1 = contents get (turn line.cells.regs) regAddr received ++ buffer.drop received
  regs : got.2.2.cells.regs = turn line.cells.regs

structure WriteContract (line : Line Regs) (devAddr regAddr value : UInt8)
    (sent : Bool × Line Regs) : Prop where
  status : sent.1 = true ↔ Succeeds address line devAddr (busWriteLink devAddr regAddr [value] 1)
  written : sent.1 = true → sent.2.cells.regs = put (turn line.cells.regs) regAddr value
  either : sent.2.cells.regs = turn line.cells.regs ∨
    sent.2.cells.regs = put (turn line.cells.regs) regAddr value

variable (fail : Fail) (line : Line Regs) (devAddr regAddr : UInt8)

theorem at_rest (buffer : List UInt8) :
    ∃ role, Talking role buffer { line.cells with regs := turn line.cells.regs }
      (line.wire turn buffer) :=
  ⟨.free, rfl, rfl, rfl, rfl⟩

theorem link_read (buffer : List UInt8) (some : 0 < buffer.length) (small : buffer.length < 256) :
    ReadContract address get turn line devAddr regAddr buffer
      ((linkBus address get put turn fail).read line devAddr regAddr buffer) := by
  have size : (UInt8.ofNat buffer.length).toNat = buffer.length := by
    rw [UInt8.toNat_ofNat', Nat.mod_eq_of_lt small]
  have began := at_rest turn line buffer
  by_cases answers : (devAddr <<< 1) >>> 1 = address
  · have read := read_holds address get put devAddr regAddr
      { line.cells with regs := turn line.cells.regs } buffer (UInt8.ofNat buffer.length) answers
      (by omega) (by omega)
    rw [size] at read
    constructor
    · constructor
      · intro ran
        exact ⟨answers, through_of_ran _ _ _ _ ran⟩
      · intro through
        exact ran_of_through _ (register_willing address get put) _ _ through.2 _
          (read_accepted address devAddr regAddr _ answers)
    · intro ran
      have told := ((read _ _ began).1 ran).2.2
      rwa [List.drop_length, List.append_nil] at told
    · exact holds_either _ _ _ _ _ (fun wire => ∃ received, received ≤ buffer.length ∧
        wire.buffer = contents get (turn line.cells.regs) regAddr received ++ buffer.drop received)
        read (fun _ told => ⟨_, Nat.le_refl _, told.2.2⟩) (fun _ partly => partly.some) _ _ began
    · exact holds_either _ _ _ _ _ (fun wire => wire.device.regs = turn line.cells.regs)
        read (fun _ told => told.1) (fun _ partly => partly.kept) _ _ began
  · have silent := read_unanswered address get put devAddr regAddr
      { line.cells with regs := turn line.cells.regs } buffer (UInt8.ofNat buffer.length) answers
    obtain ⟨never, _⟩ := silent (line.fates 0) _ began
    have kept (wire : Wire (Cells Regs))
        (still : Still (Keeping (turn line.cells.regs)) buffer wire) :
        wire.device.regs = turn line.cells.regs := still.kept
    constructor
    · exact ⟨fun ran => (never ran).elim, fun through => absurd through.1 answers⟩
    · exact fun ran => (never ran).elim
    · exact holds_either _ _ _ _ _ (fun wire => ∃ received, received ≤ buffer.length ∧
        wire.buffer = contents get (turn line.cells.regs) regAddr received ++ buffer.drop received)
        silent (fun _ never => never.elim) (fun _ still => ⟨0, Nat.zero_le _, still.buffer⟩) _ _ began
    · exact holds_either _ _ _ _ _ (fun wire => wire.device.regs = turn line.cells.regs)
        silent (fun _ never => never.elim) kept _ _ began

theorem link_write (value : UInt8) :
    WriteContract address put turn line devAddr regAddr value
      ((linkBus address get put turn fail).write line devAddr regAddr [value]) := by
  have began := at_rest turn line []
  by_cases answers : (devAddr <<< 1) >>> 1 = address
  · have write := write_one_holds address get put devAddr regAddr value
      { line.cells with regs := turn line.cells.regs } answers
    constructor
    · constructor
      · intro ran
        exact ⟨answers, through_of_ran _ _ _ _ ran⟩
      · intro through
        exact ran_of_through _ (register_willing address get put) _ _ through.2 _
          (write_accepted address devAddr regAddr _ _ answers)
    · exact (write _ _ began).1
    · exact holds_either _ _ _ _ _ (fun wire => wire.device.regs = turn line.cells.regs ∨
        wire.device.regs = put (turn line.cells.regs) regAddr value)
        write (fun _ written => .inr written) (fun _ either => either) _ _ began
  · have silent := write_unanswered address get put devAddr regAddr
      { line.cells with regs := turn line.cells.regs } [] [value] 1 answers
    obtain ⟨never, _⟩ := silent (line.fates 0) _ began
    have kept (wire : Wire (Cells Regs))
        (still : Still (Keeping (turn line.cells.regs)) [] wire) :
        wire.device.regs = turn line.cells.regs := still.kept
    constructor
    · exact ⟨fun ran => (never ran).elim, fun through => absurd through.1 answers⟩
    · exact fun ran => (never ran).elim
    · exact holds_either _ _ _ _ _ (fun wire => wire.device.regs = turn line.cells.regs ∨
        wire.device.regs = put (turn line.cells.regs) regAddr value)
        silent (fun _ never => never.elim) (fun _ still => .inl (kept _ still)) _ _ began

theorem link_contract (buffer : List UInt8) (some : 0 < buffer.length)
    (small : buffer.length < 256) :
    ReadContract address get turn line devAddr regAddr buffer
        ((linkBus address get put turn fail).read line devAddr regAddr buffer) ∧
      ∀ value, WriteContract address put turn line devAddr regAddr value
        ((linkBus address get put turn fail).write line devAddr regAddr [value]) := by
  constructor
  · exact link_read address get put turn fail line devAddr regAddr buffer some small
  · exact link_write address get put turn fail line devAddr regAddr

end Bus

/-- A link that is cut before its third byte of data. -/
def torn : Line (UInt8 → UInt8) :=
  ⟨⟨fun regAddr => regAddr, 0, false⟩, fun _ i => if i = 7 then .lost else .through⟩

theorem link_contract_torn :
    let bus := linkBus 0x76 (fun regs => regs) (fun regs _ _ => regs) (fun regs => regs)
      ⟨-1, by decide⟩
    let got := bus.read torn 0x76 0xF7 [0, 0, 0, 0, 0, 0]
    got.2.1 = [0xF7, 0xF8, 0, 0, 0, 0] ∧
      ReadContract 0x76 (fun regs => regs) (fun regs => regs) torn 0x76 0xF7 [0, 0, 0, 0, 0, 0] got :=
  ⟨by decide, (link_contract 0x76 (fun regs => regs) (fun regs _ _ => regs) (fun regs => regs)
    ⟨-1, by decide⟩ torn 0x76 0xF7 [0, 0, 0, 0, 0, 0] (by decide) (by decide)).1⟩

end AirMonitor.BusLink
