import AirMonitor.Bmp280Api
import AirMonitor.BusLink
import AirMonitor.Histories

/-!
`bmp280_write_register` and `bmp280_read_register` over command links. A write that is
reported as failed may still have been carried out, so what a register can hold is
told by the history of accesses.
-/

namespace AirMonitor.Registers
open Bytes Bmp280 Bmp280Api I2c BusLink Sensor Histories

inductive Access where
  | write (reg value : UInt8)
  | read (reg : UInt8) (buffer : List UInt8)

/-- The buffers that a `u8` length describes. -/
def Access.Fits : Access → Prop
  | .write _ _ => True
  | .read _ buffer => 0 < buffer.length ∧ buffer.length < 256

abbrev Log := List (Event UInt8 UInt8)

def seen (reg : UInt8) (bytes : List UInt8) : Log :=
  (List.range bytes.length).map fun i => .saw (reg + UInt8.ofNat i) (byteAt bytes i)

section Runs
variable {Env : Type} (bus : Bus Env)

/-- One access, and what its caller learns from it. -/
def access (asked : Access) (log : Log) (driver : Driver Env) : Log × Driver Env :=
  match asked with
  | .write reg value =>
      let sent := bmp280WriteRegister bus reg [value] driver
      (.wrote reg value (sent.1 == success) :: log, sent.2)
  | .read reg buffer =>
      let got := bmp280ReadRegister bus reg buffer driver
      (if got.1 == success then seen reg got.2.1 ++ log else log, got.2.2)

def accesses : List Access → Log → Driver Env → Log × Driver Env
  | [], log, driver => (log, driver)
  | asked :: rest, log, driver =>
      let done := access bus asked log driver
      accesses rest done.1 done.2

end Runs

section Links
variable (address : UInt8) (fail : Fail) (initial : UInt8 → UInt8)

/-- The sensor as a plain register file behind the links. -/
def fileBus : Bus (Line (UInt8 → UInt8)) :=
  linkBus address (fun regs => regs) Function.update (fun regs => regs) fail

theorem explains_seen (regs : UInt8 → UInt8) (reg : UInt8) (places : List Nat) (log : Log)
    (explains : Explains initial log regs) :
    Explains initial
      ((places.map fun i => .saw (reg + UInt8.ofNat i) (regs (reg + UInt8.ofNat i))) ++ log)
      regs := by
  induction places with
  | nil => exact explains
  | cons place rest ih => exact explains_saw initial _ regs ih (reg + UInt8.ofNat place)

theorem seen_contents (regs : UInt8 → UInt8) (reg : UInt8) (count : Nat) :
    seen reg (contents (fun regs => regs) regs reg count) =
      (List.range count).map fun i =>
        .saw (reg + UInt8.ofNat i) (regs (reg + UInt8.ofNat i)) := by
  have size : (contents (fun regs => regs) regs reg count).length = count := by simp [contents]
  rw [seen, size]
  apply List.map_congr_left
  intro i member
  have inside := List.mem_range.mp member
  simp [byteAt, contents, inside]

theorem status_told (ok : Bool) :
    ((if ok = true then success else (fileBus address fail).fail) == success) = ok := by
  cases ok with
  | true => rfl
  | false =>
      have loud : (fileBus address fail).fail ≠ success := (fileBus address fail).failNonzero
      simpa using loud

/-- One access of an attached driver keeps the log true of the registers. -/
theorem access_explains (asked : Access) (fits : asked.Fits) (log : Log)
    (driver : Driver (Line (UInt8 → UInt8))) (attached : driver.attached = true)
    (explains : Explains initial log driver.env.cells.regs) :
    let done := access (fileBus address fail) asked log driver
    done.2.attached = true ∧ Explains initial done.1 done.2.env.cells.regs := by
  cases driver with | mk chip held line =>
  subst attached
  cases asked with
  | write reg value =>
      have contract : WriteContract address Function.update (fun regs => regs) line chip.devAddr
          reg value ((fileBus address fail).write line chip.devAddr reg [value]) :=
        link_write address _ _ _ fail line chip.devAddr reg value
      simp only [access, bmp280WriteRegister, if_true, busWrite, status_told]
      refine ⟨trivial, ?_⟩
      by_cases acked : ((fileBus address fail).write line chip.devAddr reg [value]).1 = true
      · rw [contract.written acked]
        exact explains_written initial log _ explains reg value _
      · rw [eq_false_of_ne_true acked]
        cases contract.either with
        | inl kept =>
            rw [kept]
            exact explains_lost initial log _ explains reg value
        | inr written =>
            rw [written]
            exact explains_written initial log _ explains reg value false
  | read reg buffer =>
      have contract : ReadContract address (fun regs => regs) (fun regs => regs) line chip.devAddr
          reg buffer ((fileBus address fail).read line chip.devAddr reg buffer) :=
        link_read address _ _ _ fail line chip.devAddr reg buffer fits.1 fits.2
      simp only [access, bmp280ReadRegister, if_true, busRead, status_told]
      refine ⟨trivial, ?_⟩
      rw [contract.regs]
      by_cases acked : ((fileBus address fail).read line chip.devAddr reg buffer).1 = true
      · rw [if_pos acked, contract.told acked, seen_contents]
        exact explains_seen initial _ reg _ log explains
      · rw [if_neg acked]
        exact explains

theorem run_explains (asked : List Access) (fits : ∀ one ∈ asked, one.Fits) (log : Log)
    (driver : Driver (Line (UInt8 → UInt8))) (attached : driver.attached = true)
    (explains : Explains initial log driver.env.cells.regs) :
    let done := accesses (fileBus address fail) asked log driver
    Explains initial done.1 done.2.env.cells.regs := by
  induction asked generalizing log driver with
  | nil => exact explains
  | cons one rest ih =>
      have step := access_explains address fail initial one (fits one List.mem_cons_self) log
        driver attached explains
      exact ih (fun other member => fits other (List.mem_cons_of_mem _ member)) _ _ step.1 step.2

/-- In every run of register accesses, whatever becomes of the commands of their links,
each successful read tells a possible content of every register it covers. So until the
next write to it a register is seen, and left, as the last acknowledged write put it. -/
theorem accesses_explained (asked : List Access) (fits : ∀ one ∈ asked, one.Fits)
    (driver : Driver (Line (UInt8 → UInt8))) (attached : driver.attached = true) :
    let done := accesses (fileBus address fail) asked [] driver
    Explains driver.env.cells.regs done.1 done.2.env.cells.regs ∧
      ∀ newer older reg written, done.1 = newer ++ .wrote reg written true :: older →
        Untouched reg newer →
        (∀ value, .saw reg value ∈ newer → value = written) ∧
          done.2.env.cells.regs reg = written := by
  intro done
  have explains := run_explains address fail driver.env.cells.regs asked fits [] driver attached
    ⟨trivial, fun _ => rfl⟩
  constructor
  · exact explains
  · intro newer older reg written log untouched
    have sound := explains.sound
    have possible := explains.possible reg
    rw [log] at sound possible
    exact ⟨fun value => sound_last _ older reg written value newer untouched sound,
      possible_last _ older reg written _ newer untouched possible⟩

end Links

/-- The second of the links, a write, is cut at its data. -/
def cutLine : Line (UInt8 → UInt8) :=
  ⟨⟨fun _ => 0, 0, false⟩, fun link i => if link = 1 ∧ i = 3 then .lost else .through⟩

theorem accesses_explained_cut :
    let asked := [Access.write 0xF4 0x57, .write 0xF5 0x10, .read 0xF4 [0, 0]]
    let driver : Driver (Line (UInt8 → UInt8)) :=
      ⟨{ Bmp280T.zero with devAddr := 0x76 }, true, cutLine⟩
    let done := accesses (fileBus 0x76 ⟨-1, by decide⟩) asked [] driver
    done.1 = [.saw 0xF4 0x57, .saw 0xF5 0, .wrote 0xF5 0x10 false, .wrote 0xF4 0x57 true] ∧
      Explains driver.env.cells.regs done.1 done.2.env.cells.regs := by
  constructor
  · decide +kernel
  · exact (accesses_explained 0x76 _ _ (by simp [Access.Fits]) _ rfl).1

end AirMonitor.Registers
