import Mathlib.Data.List.Basic

/-!
A two-wire bus with one master. The master queues commands in a link and runs the
link against a device; an unacknowledged byte or a fault of the bus ends the run
at any command. Links have triples with two postconditions, one for the links that
run to their end and one for those that do not.
-/

namespace AirMonitor.I2c

universe u
variable {State : Type u}

inductive Direction where
  | write
  | read

def Direction.bit : Direction → UInt8
  | .write => 0
  | .read => 1

/-- A device by what the bus shows of it: being addressed, a byte it is sent and
whether it acknowledges it, a byte it sends, and the stop condition. -/
structure Device (State : Type u) where
  address : UInt8
  select : Direction → State → State
  take : State → UInt8 → Bool × State
  give : State → UInt8 × State
  release : State → State

/-- `place` is where a byte read goes in the buffer of the caller. -/
inductive Command where
  | start
  | writeByte (value : UInt8) (ackCheck : Bool)
  | readByte (place : Int) (nack : Bool)
  | stop

/-- Who has the bus: nobody, the master about to send an address, or the device. -/
inductive Role where
  | free
  | addressing
  | listening
  | sending

def Direction.role : Direction → Role
  | .write => .listening
  | .read => .sending

/-- `stray` records a byte stored outside the buffer. -/
structure Wire (State : Type u) where
  role : Role
  device : State
  buffer : List UInt8
  stray : Bool

/-- What becomes of a command: it is carried out, or it is the last one, carried
out or not. -/
inductive Fate where
  | through
  | late
  | lost

/-- The seven bits of an address and the direction. -/
def addressByte (address : UInt8) (direction : Direction) : UInt8 := (address <<< 1) ||| direction.bit

theorem address_shift (address : UInt8) (direction : Direction) :
    addressByte address direction >>> 1 = (address <<< 1) >>> 1 := by
  rw [addressByte, UInt8.shiftRight_or]
  cases direction <;> exact UInt8.or_zero

theorem address_bit (address : UInt8) (direction : Direction) :
    addressByte address direction &&& 1 = direction.bit := by
  apply UInt8.toBitVec_inj.mp
  apply BitVec.eq_of_getLsbD_eq
  intro i inside
  cases direction <;> simp [addressByte, Direction.bit] <;> omega

def Wire.store (wire : Wire State) (place : Int) (value : UInt8) : Wire State :=
  if 0 ≤ place ∧ place.toNat < wire.buffer.length then
    { wire with buffer := wire.buffer.set place.toNat value }
  else { wire with stray := true }

section Execution
variable (device : Device State)

/-- The bus after an aborted link. -/
def Wire.abandon (wire : Wire State) : Wire State :=
  { wire with role := .free, device := device.release wire.device }

/-- Whether the master goes on, and the bus after the command. -/
def carry (wire : Wire State) : Command → Bool × Wire State
  | .start => (true, { wire with role := .addressing })
  | .writeByte value ackCheck =>
      match wire.role with
      | .addressing =>
          if value >>> 1 = device.address then
            if value &&& 1 = 0 then
              (true, { wire with role := .listening, device := device.select .write wire.device })
            else (true, { wire with role := .sending, device := device.select .read wire.device })
          else (!ackCheck, { wire with role := .free })
      | .listening =>
          let taken := device.take wire.device value
          (taken.1 || !ackCheck, { wire with device := taken.2 })
      | _ => (!ackCheck, wire)
  | .readByte place nack =>
      match wire.role with
      | .sending =>
          let given := device.give wire.device
          -- the byte the master does not acknowledge is the last one sent
          let role := if nack then Role.free else Role.sending
          (true, { wire with role := role, device := given.2 }.store place given.1)
      | _ => (true, wire.store place 0xFF)
  | .stop => (true, { wire with role := .free, device := device.release wire.device })

/-- Whether the link ran to its end, and the bus after it. -/
def execute (fates : Nat → Fate) : List Command → Wire State → Bool × Wire State
  | [], wire => (true, wire)
  | command :: rest, wire =>
      match fates 0 with
      | .lost => (false, wire.abandon device)
      | .late => (false, (carry device wire command).2.abandon device)
      | .through =>
          let done := carry device wire command
          if done.1 then execute (fun i => fates (i + 1)) rest done.2
          else (false, done.2.abandon device)

/-- Whatever becomes of its commands, the link takes the bus from `pre` to `done` if
it runs to its end, and to `failed` if it does not. -/
def Holds (link : List Command) (pre done failed : Wire State → Prop) : Prop :=
  ∀ fates wire, pre wire →
    ((execute device fates link wire).1 = true → done (execute device fates link wire).2) ∧
      ((execute device fates link wire).1 = false → failed (execute device fates link wire).2)

variable (pre mid done failed : Wire State → Prop)

theorem holds_nil (same : ∀ wire, pre wire → done wire) : Holds device [] pre done failed := by
  intro fates wire before
  constructor
  · intro _
    exact same wire before
  · intro ended
    exact absurd ended (by simp [execute])

theorem holds_cons (command : Command) (rest : List Command)
    (lost : ∀ wire, pre wire → failed (wire.abandon device))
    (late : ∀ wire, pre wire → failed ((carry device wire command).2.abandon device))
    (goes : ∀ wire, pre wire → (carry device wire command).1 = true →
      mid (carry device wire command).2)
    (later : Holds device rest mid done failed) :
    Holds device (command :: rest) pre done failed := by
  intro fates wire before
  cases fate : fates 0 with
  | lost =>
      simp only [execute, fate]
      exact ⟨by simp, fun _ => lost wire before⟩
  | late =>
      simp only [execute, fate]
      exact ⟨by simp, fun _ => late wire before⟩
  | through =>
      simp only [execute, fate]
      cases answer : (carry device wire command).1 with
      | true => exact later _ _ (goes wire before answer)
      | false => exact ⟨by simp, fun _ => late wire before⟩

theorem holds_append (first second : List Command) (one : Holds device first pre mid failed)
    (two : Holds device second mid done failed) : Holds device (first ++ second) pre done failed := by
  intro fates wire before
  have front := one fates wire before
  clear one before
  -- only how the first link ends matters, so the induction forgets how it began
  induction first generalizing fates wire with
  | nil => exact two fates wire (front.1 rfl)
  | cons command rest ih =>
      cases fate : fates 0 with
      | lost | late =>
          simp only [List.cons_append, execute, fate] at front ⊢
          exact ⟨by simp, front.2⟩
      | through =>
          simp only [List.cons_append, execute, fate] at front ⊢
          cases answer : (carry device wire command).1 with
          | true =>
              simp only [answer, if_true] at front ⊢
              exact ih _ _ front
          | false =>
              simp only [answer, Bool.false_eq_true, if_false] at front ⊢
              exact ⟨by simp, front.2⟩

theorem holds_weaken (link : List Command) (pre' done' failed' : Wire State → Prop)
    (before : ∀ wire, pre' wire → pre wire) (after : ∀ wire, done wire → done' wire)
    (aborted : ∀ wire, failed wire → failed' wire) (holds : Holds device link pre done failed) :
    Holds device link pre' done' failed' := by
  intro fates wire start
  obtain ⟨ran, ended⟩ := holds fates wire (before wire start)
  exact ⟨fun yes => after _ (ran yes), fun no => aborted _ (ended no)⟩

/-- However the link ends. -/
theorem holds_either (link : List Command) (either : Wire State → Prop)
    (holds : Holds device link pre done failed) (after : ∀ wire, done wire → either wire)
    (aborted : ∀ wire, failed wire → either wire) (fates : Nat → Fate) (wire : Wire State)
    (before : pre wire) : either (execute device fates link wire).2 := by
  obtain ⟨ran, ended⟩ := holds fates wire before
  cases how : (execute device fates link wire).1 with
  | true => exact after _ (ran how)
  | false => exact aborted _ (ended how)

/-- After a link that never ends well, nothing more is run. -/
theorem holds_absurd (link : List Command) : Holds device link (fun _ => False) done failed := by
  intro _ _ never
  exact never.elim

/-- What every command of the link keeps, the link keeps. -/
theorem holds_invariant (link : List Command) (Inv : Wire State → Prop)
    (kept : ∀ command ∈ link, ∀ wire, Inv wire → Inv (carry device wire command).2)
    (abandoned : ∀ wire, Inv wire → Inv (wire.abandon device)) :
    Holds device link Inv Inv Inv := by
  induction link with
  | nil => exact holds_nil device Inv Inv Inv fun _ inv => inv
  | cons command rest ih =>
      have now := kept command List.mem_cons_self
      exact holds_cons device Inv Inv Inv Inv command rest abandoned
        (fun wire inv => abandoned _ (now wire inv)) (fun wire inv _ => now wire inv)
        (ih fun later member => kept later (List.mem_cons_of_mem command member))

/-- A link that runs to its end has lost no command. -/
theorem through_of_ran (link : List Command) (fates : Nat → Fate) (wire : Wire State)
    (ran : (execute device fates link wire).1 = true) :
    ∀ i, i < link.length → fates i = .through := by
  induction link generalizing fates wire with
  | nil => exact fun i never => absurd never (Nat.not_lt_zero i)
  | cons command rest ih =>
      intro i inside
      cases fate : fates 0 with
      | lost | late => simp [execute, fate] at ran
      | through =>
          simp only [execute, fate] at ran
          cases answer : (carry device wire command).1 with
          | false => simp [answer] at ran
          | true =>
              rw [answer, if_pos rfl] at ran
              cases i with
              | zero => exact fate
              | succ i => exact ih _ _ ran i (Nat.lt_of_succ_lt_succ inside)

/-- Whether a device that acknowledges every byte sent to it acknowledges the link:
only the roles and the addresses matter. -/
def accepts (address : UInt8) : Role → List Command → Bool
  | _, [] => true
  | _, .start :: rest => accepts address .addressing rest
  | .addressing, .writeByte value ackCheck :: rest =>
      if value >>> 1 = address then
        accepts address (if value &&& 1 = 0 then .listening else .sending) rest
      else !ackCheck && accepts address .free rest
  | .listening, .writeByte _ _ :: rest => accepts address .listening rest
  | role, .writeByte _ ackCheck :: rest => !ackCheck && accepts address role rest
  | .sending, .readByte _ nack :: rest => accepts address (if nack then .free else .sending) rest
  | role, .readByte _ _ :: rest => accepts address role rest
  | _, .stop :: rest => accepts address .free rest

theorem store_role (wire : Wire State) (place : Int) (value : UInt8) :
    (wire.store place value).role = wire.role := by
  rw [Wire.store]
  split <;> rfl

theorem store_length (wire : Wire State) (place : Int) (value : UInt8) :
    (wire.store place value).buffer.length = wire.buffer.length := by
  rw [Wire.store]
  split
  · exact List.length_set
  · rfl

theorem carry_length (command : Command) (wire : Wire State) :
    (carry device wire command).2.buffer.length = wire.buffer.length := by
  cases command with
  | start | stop => rfl
  | readByte place nack =>
      cases role : wire.role <;> simp only [carry, role] <;> exact store_length _ place _
  | writeByte value ackCheck =>
      cases role : wire.role with
      | free | sending | listening => simp only [carry, role]
      | addressing =>
          simp only [carry, role]
          split
          · split <;> rfl
          · rfl

/-- No link makes the buffer longer or shorter. -/
theorem holds_length (link : List Command) (size : Nat) :
    Holds device link (fun wire => wire.buffer.length = size)
      (fun wire => wire.buffer.length = size) (fun wire => wire.buffer.length = size) :=
  holds_invariant device link _
    (fun command _ wire same => (carry_length device command wire).trans same) fun _ same => same

theorem accepts_step (willing : ∀ state value, (device.take state value).1 = true)
    (command : Command) (rest : List Command) (wire : Wire State)
    (accepted : accepts device.address wire.role (command :: rest) = true) :
    (carry device wire command).1 = true ∧
      accepts device.address (carry device wire command).2.role rest = true := by
  cases command with
  | start | stop => exact ⟨rfl, accepted⟩
  | readByte place nack =>
      cases role : wire.role <;> rw [role] at accepted <;>
        exact ⟨by simp [carry, role], by simpa [carry, role, store_role, accepts] using accepted⟩
  | writeByte value ackCheck =>
      cases role : wire.role with
      | free | sending =>
          rw [role, accepts, Bool.and_eq_true] at accepted
          · exact ⟨by simpa [carry, role] using accepted.1, by simpa [carry, role] using accepted.2⟩
          all_goals simp
      | listening =>
          rw [role] at accepted
          exact ⟨by simp [carry, role, willing], by simpa [carry, role, accepts] using accepted⟩
      | addressing =>
          rw [role, accepts] at accepted
          simp only [carry, role]
          split at accepted
          · rename_i known
            rw [if_pos known]
            split <;> rename_i direction
            · exact ⟨rfl, by simpa [direction] using accepted⟩
            · exact ⟨rfl, by simpa [direction] using accepted⟩
          · rename_i unknown
            rw [if_neg unknown]
            exact Bool.and_eq_true_iff.mp accepted

theorem ran_of_through (willing : ∀ state value, (device.take state value).1 = true)
    (link : List Command) (fates : Nat → Fate)
    (through : ∀ i, i < link.length → fates i = .through) (wire : Wire State)
    (accepted : accepts device.address wire.role link = true) :
    (execute device fates link wire).1 = true := by
  induction link generalizing fates wire with
  | nil => rfl
  | cons command rest ih =>
      obtain ⟨answer, later⟩ := accepts_step device willing command rest wire accepted
      simp only [execute, through 0 (Nat.zero_lt_succ _), answer, if_true]
      exact ih _ (fun i inside => through (i + 1) (Nat.succ_lt_succ inside)) _ later

theorem carry_answered (address : UInt8) (answers : (address <<< 1) >>> 1 = device.address)
    (direction : Direction) (wire : Wire State) (addressing : wire.role = .addressing)
    (ackCheck : Bool) :
    carry device wire (.writeByte (addressByte address direction) ackCheck) =
      (true, { wire with role := direction.role, device := device.select direction wire.device }) := by
  have known : addressByte address direction >>> 1 = device.address :=
    (address_shift address direction).trans answers
  simp only [carry, addressing, known, if_true, address_bit]
  cases direction <;> rfl

theorem carry_unanswered (address : UInt8) (silent : (address <<< 1) >>> 1 ≠ device.address)
    (direction : Direction) (wire : Wire State) (addressing : wire.role = .addressing) :
    carry device wire (.writeByte (addressByte address direction) true) =
      (false, { wire with role := .free }) := by
  have unknown : addressByte address direction >>> 1 ≠ device.address := by
    rw [address_shift]
    exact silent
  simp only [carry, addressing, unknown, if_false, Bool.not_true]

/-! A row of reads, a row of writes. -/

/-- What the device sends next, and what it is then. -/
def sent : Nat → State → List UInt8
  | 0, _ => []
  | count + 1, state => (device.give state).1 :: sent count (device.give state).2

def given : Nat → State → State
  | 0, state => state
  | count + 1, state => given count (device.give state).2

def taken : List UInt8 → State → State
  | [], state => state
  | value :: rest, state => taken rest (device.take state value).2

/-- Where a link stands that has gone well so far. -/
structure Talking (role : Role) (buffer : List UInt8) (state : State) (wire : Wire State) : Prop where
  role : wire.role = role
  device : wire.device = state
  buffer : wire.buffer = buffer
  inside : wire.stray = false

/-- Some of the bytes asked for are in the buffer, first ones first. -/
structure Received (Inv : State → Prop) (front back : List UInt8) (count : Nat) (state : State)
    (wire : Wire State) : Prop where
  kept : Inv wire.device
  some : ∃ received, received ≤ count ∧
    wire.buffer = front ++ (sent device received state ++ back.drop received)
  inside : wire.stray = false

def readBytes (place : Nat) : Nat → List Command
  | 0 => []
  | count + 1 => .readByte place false :: readBytes (place + 1) count

def writeBytes (data : List UInt8) (ackCheck : Bool) : List Command :=
  data.map fun value => .writeByte value ackCheck

theorem accepts_reads (address : UInt8) (count place : Nat) (rest : List Command) :
    accepts address .sending (readBytes place count ++ rest) = accepts address .sending rest := by
  induction count generalizing place with
  | zero => rfl
  | succ count ih => exact ih (place + 1)

theorem accepts_writes (address : UInt8) (data : List UInt8) (ackCheck : Bool)
    (rest : List Command) :
    accepts address .listening (writeBytes data ackCheck ++ rest) =
      accepts address .listening rest := by
  induction data with
  | nil => rfl
  | cons value data ih => exact ih

theorem store_next (wire : Wire State) (front rest : List UInt8) (old value : UInt8)
    (buffer : wire.buffer = front ++ old :: rest) :
    wire.store front.length value = { wire with buffer := front ++ value :: rest } := by
  have inside : 0 ≤ (front.length : Int) ∧ (front.length : Int).toNat < wire.buffer.length := by
    rw [buffer, Int.toNat_natCast, List.length_append, List.length_cons]
    omega
  rw [Wire.store, if_pos inside, Int.toNat_natCast, buffer, List.set_append_right _ _ (Nat.le_refl _),
    Nat.sub_self, List.set_cons_zero]

theorem carry_read (front rest : List UInt8) (old : UInt8) (state : State) (wire : Wire State)
    (sending : Talking .sending (front ++ old :: rest) state wire) (nack : Bool) :
    carry device wire (.readByte front.length nack) =
      (true, ⟨if nack then .free else .sending, (device.give state).2,
        front ++ (device.give state).1 :: rest, false⟩) := by
  obtain ⟨_, _, _, _⟩ := wire
  obtain ⟨rfl, rfl, rfl, rfl⟩ := sending
  exact congrArg (Prod.mk true) (store_next ⟨_, _, _, _⟩ front rest old _ rfl)

variable (Inv : State → Prop) (giving : ∀ state, Inv state → Inv (device.give state).2)
  (releasing : ∀ state, Inv state → Inv (device.release state))

theorem received_more (front rest : List UInt8) (old : UInt8) (count : Nat) (state : State)
    (wire : Wire State)
    (received : Received device Inv (front ++ [(device.give state).1]) rest count
      (device.give state).2 wire) :
    Received device Inv front (old :: rest) (count + 1) state wire := by
  obtain ⟨inv, ⟨some, bound, buffer⟩, inside⟩ := received
  refine ⟨inv, ⟨some + 1, by omega, ?_⟩, inside⟩
  rw [buffer, sent, List.drop_succ_cons]
  simp

include giving releasing in
theorem holds_reads (count : Nat) (front back : List UInt8) (room : count ≤ back.length)
    (state : State) (initial : Inv state) :
    Holds device (readBytes front.length count) (Talking .sending (front ++ back) state)
      (Talking .sending (front ++ (sent device count state ++ back.drop count))
        (given device count state))
      (Received device Inv front back count state) := by
  induction count generalizing front back state with
  | zero => exact holds_nil device _ _ _ fun wire sending => sending
  | succ count ih =>
      cases back with
      | nil => exact absurd room (by simp)
      | cons old rest =>
          have fits : count ≤ rest.length := by simpa using room
          have size : (front ++ [(device.give state).1]).length = front.length + 1 := by simp
          have later := ih (front ++ [(device.give state).1]) rest fits (device.give state).2
            (giving state initial)
          rw [size] at later
          apply holds_cons device _ (Talking .sending (front ++ [(device.give state).1] ++ rest)
            (device.give state).2)
          · intro wire sending
            refine ⟨?_, ⟨0, Nat.zero_le _, sending.buffer⟩, sending.inside⟩
            exact releasing _ (sending.device ▸ initial)
          · intro wire sending
            rw [carry_read device front rest old state wire sending]
            exact ⟨releasing _ (giving state initial), ⟨1, by omega, by simp [Wire.abandon, sent]⟩, rfl⟩
          · intro wire sending _
            rw [carry_read device front rest old state wire sending]
            exact ⟨rfl, rfl, by simp, rfl⟩
          · refine holds_weaken device _ _ _ _ _ _ _ (fun wire sending => sending) ?_ ?_ later
            · intro wire sending
              refine ⟨sending.role, sending.device, ?_, sending.inside⟩
              rw [sending.buffer, sent, List.drop_succ_cons]
              simp
            · intro wire received
              exact received_more device Inv front rest old count state wire received

theorem sent_more (count : Nat) (state : State) :
    sent device (count + 1) state =
      sent device count state ++ [(device.give (given device count state)).1] := by
  induction count generalizing state with
  | zero => rfl
  | succ count ih => exact congrArg _ (ih (device.give state).2)

theorem given_kept (count : Nat) (state : State)
    (giving : ∀ state, Inv state → Inv (device.give state).2) (initial : Inv state) :
    Inv (given device count state) := by
  induction count generalizing state with
  | zero => exact initial
  | succ count ih => exact ih _ (giving state initial)

include giving releasing in
/-- The last byte of a row is not acknowledged, and the stop condition follows. -/
theorem holds_last (front rest : List UInt8) (old : UInt8) (state : State) (initial : Inv state) :
    Holds device [.readByte front.length true, .stop]
      (Talking .sending (front ++ old :: rest) state)
      (fun wire => Inv wire.device ∧ wire.stray = false ∧
        wire.buffer = front ++ (device.give state).1 :: rest)
      (Received device Inv front (old :: rest) 1 state) := by
  have after := giving state initial
  have one (wire : Wire State) (kept : Inv wire.device) (inside : wire.stray = false)
      (told : wire.buffer = front ++ (device.give state).1 :: rest) :
      Received device Inv front (old :: rest) 1 state wire :=
    ⟨kept, ⟨1, Nat.le_refl _, told⟩, inside⟩
  apply holds_cons device _
    (Talking .free (front ++ (device.give state).1 :: rest) (device.give state).2)
  · intro wire talking
    refine ⟨?_, ⟨0, Nat.zero_le _, talking.buffer⟩, talking.inside⟩
    exact releasing _ (talking.device ▸ initial)
  · intro wire talking
    rw [carry_read device front rest old state wire talking]
    exact one _ (releasing _ after) rfl rfl
  · intro wire talking _
    rw [carry_read device front rest old state wire talking]
    exact ⟨rfl, rfl, rfl, rfl⟩
  · apply holds_cons device _ (fun wire => Inv wire.device ∧ wire.stray = false ∧
      wire.buffer = front ++ (device.give state).1 :: rest)
    · intro wire talking
      exact one _ (releasing _ (talking.device ▸ after)) talking.inside talking.buffer
    · intro wire talking
      exact one _ (releasing _ (releasing _ (talking.device ▸ after))) talking.inside talking.buffer
    · intro wire talking _
      exact ⟨releasing _ (talking.device ▸ after), talking.inside, talking.buffer⟩
    · exact holds_nil device _ _ _ fun wire done => done

theorem sent_length (count : Nat) (state : State) : (sent device count state).length = count := by
  induction count generalizing state with
  | zero => rfl
  | succ count ih => exact congrArg (· + 1) (ih (device.give state).2)

include giving releasing in
/-- A row of reads with its last byte. -/
theorem holds_burst (count : Nat) (front back : List UInt8) (room : count < back.length)
    (state : State) (initial : Inv state) :
    Holds device (readBytes front.length count ++
        [.readByte ((front.length + count : Nat) : Int) true, .stop])
      (Talking .sending (front ++ back) state)
      (fun wire => Inv wire.device ∧ wire.stray = false ∧
        wire.buffer = front ++ (sent device (count + 1) state ++ back.drop (count + 1)))
      (Received device Inv front back (count + 1) state) := by
  have place : (front ++ sent device count state).length = front.length + count := by
    rw [List.length_append, sent_length]
  have row := holds_reads device Inv giving releasing count front back (by omega) state initial
  have last := holds_last device Inv giving releasing (front ++ sent device count state)
    (back.drop (count + 1)) back[count] (given device count state)
    (given_kept device Inv count state giving initial)
  have split : front ++ (sent device count state ++ back.drop count) =
      front ++ sent device count state ++ back[count] :: back.drop (count + 1) := by
    rw [List.append_assoc, ← List.drop_eq_getElem_cons room]
  have whole : front ++ sent device count state ++
      (device.give (given device count state)).1 :: back.drop (count + 1) =
        front ++ (sent device (count + 1) state ++ back.drop (count + 1)) := by
    rw [sent_more]
    simp
  rw [split] at row
  rw [place, whole] at last
  refine holds_append device _ _ _ _ _ _ (holds_weaken device _ _ _ _ _ _ _
    (fun _ talking => talking) (fun _ talking => talking) ?_ row)
    (holds_weaken device _ _ _ _ _ _ _ (fun _ talking => talking) (fun _ told => told) ?_ last)
  · rintro wire ⟨inv, ⟨received, bound, buffer⟩, inside⟩
    exact ⟨inv, ⟨received, by omega, buffer⟩, inside⟩
  · rintro wire ⟨inv, ⟨received, bound, buffer⟩, inside⟩
    cases received with
    | zero =>
        refine ⟨inv, ⟨count, by omega, ?_⟩, inside⟩
        rw [buffer, split]
        rfl
    | succ received =>
        obtain rfl : received = 0 := by omega
        exact ⟨inv, ⟨count + 1, Nat.le_refl _, buffer.trans whole⟩, inside⟩

/-- A device that acknowledges every byte has taken all of them, or the first ones. -/
theorem holds_writes (willing : ∀ state value, (device.take state value).1 = true)
    (data buffer : List UInt8) (ackCheck : Bool) (state : State) :
    Holds device (writeBytes data ackCheck) (Talking .listening buffer state)
      (Talking .listening buffer (taken device data state))
      (fun wire => wire.buffer = buffer ∧ wire.stray = false ∧ ∃ count,
        wire.device = device.release (taken device (data.take count) state)) := by
  induction data generalizing state with
  | nil => exact holds_nil device _ _ _ fun wire listening => listening
  | cons value rest ih =>
      have carried (wire : Wire State) (listening : Talking .listening buffer state wire) :
          carry device wire (.writeByte value ackCheck) =
            (true, ⟨.listening, (device.take state value).2, buffer, false⟩) := by
        obtain ⟨role, same, held, inside⟩ := listening
        rw [carry, role]
        simp only [same, willing, Bool.true_or, held, inside]
      apply holds_cons device _ (Talking .listening buffer (device.take state value).2)
      · intro wire listening
        exact ⟨listening.buffer, listening.inside, 0, by rw [← listening.device]; rfl⟩
      · intro wire listening
        rw [carried wire listening]
        exact ⟨rfl, rfl, 1, rfl⟩
      · intro wire listening _
        rw [carried wire listening]
        exact ⟨rfl, rfl, rfl, rfl⟩
      · refine holds_weaken device _ _ _ _ _ _ _ (fun wire listening => listening)
          (fun wire listening => listening) ?_ (ih (device.take state value).2)
        rintro wire ⟨held, inside, count, same⟩
        exact ⟨held, inside, count + 1, same⟩

/-- Nothing read. -/
structure Still (Inv : State → Prop) (buffer : List UInt8) (wire : Wire State) : Prop where
  kept : Inv wire.device
  buffer : wire.buffer = buffer
  inside : wire.stray = false

/-- A start condition and the address of a device. -/
def opening (named : UInt8) (direction : Direction) : List Command :=
  [.start, .writeByte (addressByte named direction) true]

theorem accepts_opening (address named : UInt8) (answers : (named <<< 1) >>> 1 = address)
    (direction : Direction) (role : Role) (rest : List Command) :
    accepts address role (opening named direction ++ rest) =
      accepts address direction.role rest := by
  have known : addressByte named direction >>> 1 = address :=
    (address_shift named direction).trans answers
  cases role <;> simp only [opening, List.cons_append, List.nil_append, accepts, known, if_true,
    address_bit] <;> cases direction <;> rfl

section Steps
variable (state : State) (initial : Inv state) (buffer : List UInt8)

include releasing initial in
theorem abandoned_still (role : Role) (wire : Wire State)
    (talking : Talking role buffer state wire) : Still Inv buffer (wire.abandon device) :=
  ⟨releasing _ (talking.device ▸ initial), talking.buffer, talking.inside⟩

include releasing initial in
theorem holds_opening (named : UInt8) (answers : (named <<< 1) >>> 1 = device.address)
    (direction : Direction) (selected : Inv (device.select direction state)) :
    Holds device (opening named direction) (fun wire => ∃ role, Talking role buffer state wire)
      (Talking direction.role buffer (device.select direction state)) (Still Inv buffer) := by
  have carried (wire : Wire State) (talking : Talking .addressing buffer state wire) :
      Talking direction.role buffer (device.select direction state)
        (carry device wire (.writeByte (addressByte named direction) true)).2 := by
    rw [carry_answered device named answers direction wire talking.role true]
    exact ⟨rfl, congrArg _ talking.device, talking.buffer, talking.inside⟩
  apply holds_cons device _ (Talking .addressing buffer state)
  · rintro wire ⟨role, talking⟩
    exact abandoned_still device Inv releasing state initial buffer role wire talking
  · rintro wire ⟨role, talking⟩
    exact abandoned_still device Inv releasing state initial buffer role wire talking
  · rintro wire ⟨_, talking⟩ _
    exact ⟨rfl, talking.device, talking.buffer, talking.inside⟩
  · apply holds_cons device _ (Talking direction.role buffer (device.select direction state))
    · intro wire talking
      exact abandoned_still device Inv releasing state initial buffer _ wire talking
    · intro wire talking
      exact abandoned_still device Inv releasing _ selected buffer _ _ (carried wire talking)
    · intro wire talking _
      exact carried wire talking
    · exact holds_nil device _ _ _ fun _ opened => opened

include releasing initial in
/-- Nobody answers, and the link ends there. -/
theorem holds_unanswered (named : UInt8) (silent : (named <<< 1) >>> 1 ≠ device.address)
    (direction : Direction) :
    Holds device (opening named direction) (fun wire => ∃ role, Talking role buffer state wire)
      (fun _ => False) (Still Inv buffer) := by
  have carried (wire : Wire State) (addressing : wire.role = .addressing) :=
    carry_unanswered device named silent direction wire addressing
  apply holds_cons device _ (Talking .addressing buffer state)
  · rintro wire ⟨role, talking⟩
    exact abandoned_still device Inv releasing state initial buffer role wire talking
  · rintro wire ⟨role, talking⟩
    exact abandoned_still device Inv releasing state initial buffer role wire talking
  · rintro wire ⟨_, talking⟩ _
    exact ⟨rfl, talking.device, talking.buffer, talking.inside⟩
  · apply holds_cons device _ (fun _ => False)
    · intro wire talking
      exact abandoned_still device Inv releasing state initial buffer _ wire talking
    · intro wire talking
      rw [carried wire talking.role]
      exact abandoned_still device Inv releasing state initial buffer _ wire talking
    · intro wire talking answered
      rw [carried wire talking.role] at answered
      exact Bool.noConfusion answered
    · exact holds_absurd device _ _ _

include releasing initial in
/-- A byte sent to a device that acknowledges every byte. -/
theorem holds_take (willing : ∀ state value, (device.take state value).1 = true) (value : UInt8)
    (ackCheck : Bool) (after : Inv (device.take state value).2) :
    Holds device [.writeByte value ackCheck] (Talking .listening buffer state)
      (Talking .listening buffer (device.take state value).2) (Still Inv buffer) := by
  have writes := holds_writes device willing [value] buffer ackCheck state
  refine holds_weaken device _ _ _ _ _ _ _ (fun _ talking => talking) (fun _ talking => talking)
    ?_ writes
  rintro wire ⟨held, inside, count, same⟩
  refine ⟨?_, held, inside⟩
  rw [same]
  cases count with
  | zero => exact releasing _ initial
  | succ count =>
      have whole : List.take (count + 1) [value] = [value] := by simp
      rw [whole]
      exact releasing _ after

include releasing initial in
theorem holds_stop (role : Role) :
    Holds device [.stop] (Talking role buffer state)
      (Talking .free buffer (device.release state)) (Still Inv buffer) := by
  apply holds_cons device _ (Talking .free buffer (device.release state))
  · intro wire talking
    exact abandoned_still device Inv releasing state initial buffer role wire talking
  · intro wire talking
    exact ⟨releasing _ (releasing _ (talking.device ▸ initial)), talking.buffer, talking.inside⟩
  · intro wire talking _
    exact ⟨rfl, congrArg _ talking.device, talking.buffer, talking.inside⟩
  · exact holds_nil device _ _ _ fun _ stopped => stopped

end Steps

end Execution

/-! A device of registers: the first byte written names a register, and bytes
written after it are pairs of a value and the next register. Reads go from register
to register. -/

universe v
variable {Regs : Type v}

structure Cells (Regs : Type v) where
  regs : Regs
  pointer : UInt8
  named : Bool

def registerDevice (address : UInt8) (get : Regs → UInt8 → UInt8)
    (put : Regs → UInt8 → UInt8 → Regs) : Device (Cells Regs) where
  address := address
  select direction cells :=
    match direction with
    | .write => { cells with named := false }
    | .read => cells
  take cells value :=
    (true,
      if cells.named then { cells with regs := put cells.regs cells.pointer value, named := false }
      else { cells with pointer := value, named := true })
  give cells := (get cells.regs cells.pointer, { cells with pointer := cells.pointer + 1 })
  release cells := cells

variable (address : UInt8) (get : Regs → UInt8 → UInt8) (put : Regs → UInt8 → UInt8 → Regs)

theorem sent_registers (count : Nat) (cells : Cells Regs) :
    sent (registerDevice address get put) count cells =
      (List.range count).map fun i => get cells.regs (cells.pointer + UInt8.ofNat i) := by
  induction count generalizing cells with
  | zero => rfl
  | succ count ih =>
      rw [sent, ih, List.range_succ_eq_map, List.map_cons, List.map_map]
      congr 1
      · simp [registerDevice]
      · apply List.map_congr_left
        intro i _
        have next : cells.pointer + 1 + UInt8.ofNat i = cells.pointer + UInt8.ofNat (i + 1) := by
          rw [UInt8.ofNat_add, UInt8.add_assoc, UInt8.add_comm (1 : UInt8)]
          rfl
        simp [registerDevice, next]

end AirMonitor.I2c
