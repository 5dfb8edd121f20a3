import AirMonitor.Liveness
import AirMonitor.Wifi

/-!
What the handler's reconnects are for. The station is left neither connected nor
connecting only while an event is queued that makes the handler connect it, so a
network that stops refusing lets every call of `start_wifi` return.
-/

namespace AirMonitor.Wifi
open Machine Liveness

/-- The events that the handler answers with `esp_wifi_connect`. -/
def Restarts (pending : Pending) : Prop :=
  pending.event = .staStart ∨ pending.event = .staDisconnected

structure Alive (state : State) : Prop where
  restarted : state.station = .started → ∃ pending ∈ state.queue, Restarts pending
  powered : state.caller ≠ .idle → state.station ≠ .stopped

theorem connect_station (state : State) :
    (espWifiConnect state).station =
      if state.station = .started then .connecting else state.station := by
  unfold espWifiConnect
  cases station : state.station <;> simp [station]

theorem handler_station (state : State) (pending : Pending) :
    (Restarts pending → (eventHandler state pending).station = (espWifiConnect state).station) ∧
      (¬ Restarts pending → (eventHandler state pending).station = state.station) := by
  obtain ⟨event, epoch⟩ := pending
  cases event with
  | staStart => exact ⟨fun _ => rfl, fun other => absurd (.inl rfl) other⟩
  | staDisconnected => exact ⟨fun _ => rfl, fun other => absurd (.inr rfl) other⟩
  | staStop => exact ⟨fun restarts => by simp [Restarts] at restarts, fun _ => rfl⟩
  | staConnected => exact ⟨fun restarts => by simp [Restarts] at restarts, fun _ => rfl⟩
  | staGotIp => exact ⟨fun restarts => by simp [Restarts] at restarts, fun _ => rfl⟩

theorem handler_queue (state : State) (pending : Pending) :
    (eventHandler state pending).queue = state.queue := by
  by_cases got : pending.event = .staGotIp
  · rw [handler_got state pending got]
    rfl
  · exact (handler_keeps state pending got).queue

/-- A caller asleep is let go by a `GOT_IP`, and by nothing else the handler does. -/
theorem handler_caller (state : State) (pending : Pending) :
    (eventHandler state pending).caller = state.caller ∨
      (eventHandler state pending).caller = .released ∧ state.caller = .blocked := by
  by_cases got : pending.event = .staGotIp
  · rw [handler_got state pending got]
    by_cases asleep : state.caller = .blocked
    · exact .inr ⟨by simp [xEventGroupSetBits, asleep], asleep⟩
    · exact .inl (by simp [xEventGroupSetBits, asleep])
  · exact .inl (handler_keeps state pending got).caller

theorem alive_handler (state : State) (pending : Pending) (rest : List Pending)
    (queued : state.queue = pending :: rest) (alive : Alive state) :
    Alive (eventHandler { state with queue := rest } pending) := by
  have station := handler_station { state with queue := rest } pending
  have connect := connect_station { state with queue := rest }
  constructor
  · intro off
    by_cases restarts : Restarts pending
    · rw [station.1 restarts, connect] at off
      by_cases started : state.station = .started <;> simp [started] at off
    · rw [station.2 restarts] at off
      obtain ⟨source, member, again⟩ := alive.restarted off
      rw [handler_queue]
      rw [queued] at member
      rcases List.mem_cons.mp member with rfl | behind
      · exact absurd again restarts
      · exact ⟨source, behind, again⟩
  · intro inside
    have before : state.caller ≠ .idle := by
      rcases handler_caller { state with queue := rest } pending with same | ⟨_, asleep⟩
      · rwa [same] at inside
      · have blocked : state.caller = .blocked := asleep
        rw [blocked]
        exact Caller.noConfusion
    have on := alive.powered before
    by_cases restarts : Restarts pending
    · rw [station.1 restarts, connect]
      by_cases started : state.station = .started <;> simp [started, on]
    · rw [station.2 restarts]
      exact on

theorem alive_step (state next : State) (action : Action) (alive : Alive state)
    (taken : step state action = some next) : Alive next := by
  cases action with
  | startWifi =>
      obtain ⟨_, rfl⟩ := by simpa [step] using taken
      cases station : state.station with
      | stopped =>
          refine ⟨fun _ => ⟨⟨.staStart, state.stops⟩, ?_, .inl rfl⟩, ?_⟩
          · simp [espWifiStart, station, State.post]
          · simp [espWifiStart, station, State.post]
      | started =>
          have same : espWifiStart state = state := by simp [espWifiStart, station]
          rw [same]
          exact ⟨alive.restarted, by simp [station]⟩
      | connecting => exact ⟨by simp [espWifiStart, station], by simp [espWifiStart, station]⟩
      | connected => exact ⟨by simp [espWifiStart, station], by simp [espWifiStart, station]⟩
  | waitBits =>
      obtain ⟨starting, rfl⟩ := by simpa [step] using taken
      exact ⟨alive.restarted, fun _ => alive.powered (by simp [starting])⟩
  | startReturns =>
      obtain ⟨_, rfl⟩ := by simpa [step] using taken
      exact ⟨alive.restarted, fun inside => absurd rfl inside⟩
  | stopWifi =>
      obtain ⟨idle, rfl⟩ := by simpa [step] using taken
      obtain ⟨_, _, stopped, caller⟩ := stop_adds state
      constructor
      · intro off
        exact absurd (stopped.symm.trans off) (by simp)
      · intro inside
        exact absurd (caller.trans idle) inside
  | deliver =>
      cases queued : state.queue with
      | nil => simp [step, queued] at taken
      | cons pending rest =>
          obtain rfl : eventHandler { state with queue := rest } pending = next := by
            simpa [step, queued] using taken
          exact alive_handler state pending rest queued alive
  | associate =>
      obtain ⟨_, rfl⟩ := by simpa [step] using taken
      exact ⟨by simp [State.post], by simp [State.post]⟩
  | refuse =>
      obtain ⟨_, rfl⟩ := by simpa [step] using taken
      exact ⟨fun _ => ⟨⟨.staDisconnected, state.stops⟩, by simp [State.post], .inr rfl⟩,
        by simp [State.post]⟩
  | address =>
      obtain ⟨on, rfl⟩ := by simpa [step] using taken
      exact ⟨by simp [State.post, on], by simp [State.post, on]⟩
  | lose =>
      obtain ⟨_, rfl⟩ := by simpa [step] using taken
      exact ⟨fun _ => ⟨⟨.staDisconnected, state.stops⟩, by simp [State.post], .inr rfl⟩,
        by simp [State.post]⟩

theorem boot_alive : Alive boot := ⟨by simp [boot], by simp [boot]⟩

theorem runs_alive (actions : List Action) (state : State)
    (ran : run step boot actions = some state) : Alive state :=
  run_invariant step Alive (fun _ _ => True)
    (fun state action next _ alive taken => alive_step state next action alive taken)
    boot boot_alive actions (fun _ _ _ _ _ _ => trivial) state ran

/-- Nothing is queued that the handler would answer with `esp_wifi_connect`. -/
def Calm (state : State) : Prop := ∀ pending ∈ state.queue, ¬ Restarts pending

/-- Connected, addressed, lost and found again, with the second address handled. -/
def reconnection : List Action :=
  [.startWifi, .waitBits, .deliver, .associate, .address, .lose, .deliver, .deliver, .deliver,
    .associate, .address, .deliver, .deliver]

def Allowed (action : Action) : Prop := action ≠ .refuse ∧ action ≠ .lose

/-- Asleep in `xEventGroupWaitBits`, with the station as given. -/
structure Asleep (station : Station) (state : State) : Prop where
  blocked : state.caller = .blocked
  alive : Alive state
  station : state.station = station

/-- Asleep, and the event that will end it is queued. -/
def Addressed (state : State) : Prop :=
  state.caller = .blocked ∧ ∃ pending ∈ state.queue, pending.event = .staGotIp

def Released (state : State) : Prop := state.caller = .released

theorem blocked_cases (state next : State) (action : Action) (may : Allowed action)
    (blocked : state.caller = .blocked) (taken : step state action = some next) :
    (action = .deliver ∧ ∃ pending rest, state.queue = pending :: rest ∧
      next = eventHandler { state with queue := rest } pending) ∨
    (action = .associate ∧ state.station = .connecting ∧
      next = { state with station := .connected }.post .staConnected) ∨
    (action = .address ∧ state.station = .connected ∧ next = state.post .staGotIp) := by
  cases action with
  | startWifi => simp [step, blocked] at taken
  | waitBits => simp [step, blocked] at taken
  | startReturns => simp [step, blocked] at taken
  | stopWifi => simp [step, blocked] at taken
  | deliver =>
      cases queued : state.queue with
      | nil => simp [step, queued] at taken
      | cons pending rest =>
          obtain rfl : eventHandler { state with queue := rest } pending = next := by
            simpa [step, queued] using taken
          exact .inl ⟨rfl, pending, rest, rfl, rfl⟩
  | associate =>
      obtain ⟨on, rfl⟩ := by simpa [step] using taken
      exact .inr (.inl ⟨rfl, on, rfl⟩)
  | refuse => exact absurd rfl may.1
  | address =>
      obtain ⟨on, rfl⟩ := by simpa [step] using taken
      exact .inr (.inr ⟨rfl, on, rfl⟩)
  | lose => exact absurd rfl may.2

/-- One delivery to a caller asleep: it is let go, or the event was not a `GOT_IP`. -/
theorem deliver_blocked (state : State) (pending : Pending) (rest : List Pending)
    (blocked : state.caller = .blocked) :
    Released (eventHandler { state with queue := rest } pending) ∨
      (eventHandler { state with queue := rest } pending).caller = .blocked ∧
        pending.event ≠ .staGotIp := by
  by_cases got : pending.event = .staGotIp
  · left
    rw [Released, handler_got _ pending got]
    simp [xEventGroupSetBits, blocked]
  · exact .inr ⟨(handler_keeps _ pending got).caller.trans blocked, got⟩

theorem deliver_enabled (state : State) (queued : state.queue ≠ []) :
    step state .deliver ≠ none := by
  cases queue : state.queue with
  | nil => exact absurd queue queued
  | cons pending rest => simp [step, queue]

/-- How a caller gets through `start_wifi`. -/
theorem inside_step (state next : State) (action : Action) (taken : step state action = some next)
    (inside : state.caller ≠ .idle) :
    next.caller = state.caller ∨
    (action = .waitBits ∧ (next.caller = .blocked ∨ Released next)) ∨
    (state.caller = .blocked ∧ Released next) ∨
    (action = .startReturns ∧ next.caller = .idle) := by
  cases action with
  | startWifi => simp [step, inside] at taken
  | stopWifi => simp [step, inside] at taken
  | waitBits =>
      obtain ⟨_, rfl⟩ := by simpa [step] using taken
      refine .inr (.inl ⟨rfl, ?_⟩)
      cases bit : state.bit with
      | true => exact .inr rfl
      | false => exact .inl rfl
  | startReturns =>
      obtain ⟨_, rfl⟩ := by simpa [step] using taken
      exact .inr (.inr (.inr ⟨rfl, rfl⟩))
  | deliver =>
      cases queued : state.queue with
      | nil => simp [step, queued] at taken
      | cons pending rest =>
          obtain rfl : eventHandler { state with queue := rest } pending = next := by
            simpa [step, queued] using taken
          rcases handler_caller { state with queue := rest } pending with same | ⟨released, asleep⟩
          · exact .inl same
          · exact .inr (.inr (.inl ⟨asleep, released⟩))
  | associate | refuse | address | lose =>
      obtain ⟨_, rfl⟩ := by simpa [step] using taken
      exact .inl rfl

def place (state : State) : Nat := state.queue.findIdx fun pending => pending.event == .staGotIp

/-- New events do not move the one that is waited for. -/
theorem place_post (state : State) (event : SystemEvent) (addressed : Addressed state) :
    Addressed (state.post event) ∧ place (state.post event) = place state := by
  obtain ⟨blocked, pending, member, got⟩ := addressed
  refine ⟨⟨blocked, pending, List.mem_append_left _ member, got⟩, ?_⟩
  rw [place, State.post, List.findIdx_append,
    if_pos (List.findIdx_lt_length.mpr ⟨pending, member, by simp [got]⟩)]
  rfl

theorem addressed_step (state next : State) (action : Action) (may : Allowed action)
    (addressed : Addressed state) (taken : step state action = some next) :
    Released next ∨ Addressed next ∧ place next ≤ place state ∧
      (action = .deliver → place next < place state) := by
  rcases blocked_cases state next action may addressed.1 taken with
    ⟨_, pending, rest, queued, rfl⟩ | ⟨rfl, _, rfl⟩ | ⟨rfl, _, rfl⟩
  · rcases deliver_blocked state pending rest addressed.1 with released | ⟨blocked, other⟩
    · exact .inl released
    · obtain ⟨_, source, member, got⟩ := addressed
      rw [queued] at member
      rcases List.mem_cons.mp member with rfl | behind
      · exact absurd got other
      · have shorter : place (eventHandler { state with queue := rest } pending) <
            place state := by
          have missed : (pending.event == .staGotIp) = false := beq_false_of_ne other
          rw [place, place, handler_queue, queued, List.findIdx_cons, missed]
          exact Nat.lt_succ_self _
        refine .inr ⟨⟨blocked, source, ?_, got⟩, Nat.le_of_lt shorter, fun _ => shorter⟩
        rw [handler_queue]
        exact behind
  · obtain ⟨still, same⟩ := place_post { state with station := .connected } .staConnected addressed
    exact .inr ⟨still, Nat.le_of_eq same, by simp⟩
  · obtain ⟨still, same⟩ := place_post state .staGotIp addressed
    exact .inr ⟨still, Nat.le_of_eq same, by simp⟩

section Progress
variable (run : Schedule step) (quiet : Nat)
  (cooperates : ∀ time, quiet ≤ time → ∀ action, run.action time = some action → Allowed action)

/-- A station alone: every step is a delivery, and one of them connects it. -/
theorem started_step (state next : State) (action : Action) (may : Allowed action)
    (off : Asleep .started state) (taken : step state action = some next) :
    (Released next ∨ Asleep .connecting next) ∨
      Asleep .started next ∧ next.queue.length < state.queue.length := by
  have alive := alive_step state next action off.alive taken
  rcases blocked_cases state next action may off.blocked taken with
    ⟨_, pending, rest, queued, rfl⟩ | ⟨_, on, _⟩ | ⟨_, on, _⟩
  · rcases deliver_blocked state pending rest off.blocked with released | ⟨blocked, _⟩
    · exact .inl (.inl released)
    · have station := handler_station { state with queue := rest } pending
      by_cases restarts : Restarts pending
      · refine .inl (.inr ⟨blocked, alive, ?_⟩)
        rw [station.1 restarts, connect_station]
        exact if_pos off.station
      · refine .inr ⟨⟨blocked, alive, (station.2 restarts).trans off.station⟩, ?_⟩
        rw [handler_queue, queued]
        exact Nat.lt_succ_self _
  · rw [off.station] at on
    exact Station.noConfusion on
  · rw [off.station] at on
    exact Station.noConfusion on

include cooperates in
theorem started_leads (fair : WeaklyFair run .deliver) :
    LeadsTo run quiet (Asleep .started) fun state => Released state ∨ Asleep .connecting state := by
  apply leads_by_rank run quiet _ _ (fun state => state.queue.length) Allowed cooperates _ .deliver
    fair
  · intro state off
    obtain ⟨pending, member, _⟩ := off.alive.restarted off.station
    exact deliver_enabled state (List.ne_nil_of_mem member)
  · intro state next off taken
    exact started_step state next .deliver (by simp [Allowed]) off taken
  · intro state action next may off taken
    rcases started_step state next action may off taken with done | ⟨still, smaller⟩
    · exact .inl done
    · exact .inr ⟨still, Nat.le_of_lt smaller⟩

/-- Connecting or connected, deliveries do not change the station. -/
theorem deliver_keeps_station (station : Station) (state : State) (pending : Pending)
    (rest : List Pending) (on : station ≠ .started) (asleep : Asleep station state)
    (alive : Alive (eventHandler { state with queue := rest } pending)) :
    Released (eventHandler { state with queue := rest } pending) ∨
      Asleep station (eventHandler { state with queue := rest } pending) := by
  rcases deliver_blocked state pending rest asleep.blocked with released | ⟨blocked, _⟩
  · exact .inl released
  · refine .inr ⟨blocked, alive, ?_⟩
    have stays := handler_station { state with queue := rest } pending
    by_cases restarts : Restarts pending
    · have other : state.station ≠ .started := by
        rw [asleep.station]
        exact on
      rw [stays.1 restarts, connect_station]
      exact (if_neg other).trans asleep.station
    · exact (stays.2 restarts).trans asleep.station

include cooperates in
theorem connecting_leads (fair : WeaklyFair run .associate) :
    LeadsTo run quiet (Asleep .connecting) fun state => Released state ∨ Asleep .connected state := by
  have joined (state : State) (asleep : Asleep .connecting state)
      (taken : step state .associate =
        some ({ state with station := .connected }.post .staConnected)) :
      Asleep .connected ({ state with station := .connected }.post .staConnected) :=
    ⟨asleep.blocked, alive_step state _ .associate asleep.alive taken, rfl⟩
  apply leads_of_fair run quiet _ _ _ .associate fair
  · intro state asleep
    simp [step, asleep.station]
  · intro state next asleep taken
    obtain ⟨_, rfl⟩ := by simpa [step] using taken
    exact .inr (joined state asleep taken)
  · apply unless_of_steps run quiet _ _ Allowed cooperates
    intro state action next may asleep taken
    have alive := alive_step state next action asleep.alive taken
    rcases blocked_cases state next action may asleep.blocked taken with
      ⟨_, pending, rest, _, rfl⟩ | ⟨rfl, _, rfl⟩ | ⟨_, on, _⟩
    · rcases deliver_keeps_station .connecting state pending rest (by simp) asleep alive with
        released | still
      · exact .inr (.inl released)
      · exact .inl still
    · exact .inr (.inr (joined state asleep taken))
    · rw [asleep.station] at on
      exact Station.noConfusion on

include cooperates in
theorem connected_leads (fair : WeaklyFair run .address) :
    LeadsTo run quiet (Asleep .connected) fun state => Released state ∨ Addressed state := by
  have given (state : State) (asleep : Asleep .connected state) :
      Addressed (state.post .staGotIp) :=
    ⟨asleep.blocked, ⟨.staGotIp, state.stops⟩, by simp [State.post], rfl⟩
  apply leads_of_fair run quiet _ _ _ .address fair
  · intro state asleep
    simp [step, asleep.station]
  · intro state next asleep taken
    obtain ⟨_, rfl⟩ := by simpa [step] using taken
    exact .inr (given state asleep)
  · apply unless_of_steps run quiet _ _ Allowed cooperates
    intro state action next may asleep taken
    have alive := alive_step state next action asleep.alive taken
    rcases blocked_cases state next action may asleep.blocked taken with
      ⟨_, pending, rest, _, rfl⟩ | ⟨_, on, _⟩ | ⟨_, _, rfl⟩
    · rcases deliver_keeps_station .connected state pending rest (by simp) asleep alive with
        released | still
      · exact .inr (.inl released)
      · exact .inl still
    · rw [asleep.station] at on
      exact Station.noConfusion on
    · exact .inr (.inr (given state asleep))

include cooperates in
theorem addressed_leads (fair : WeaklyFair run .deliver) :
    LeadsTo run quiet Addressed Released := by
  apply leads_by_rank run quiet _ _ place Allowed cooperates _ .deliver fair
  · rintro state ⟨_, pending, member, _⟩
    exact deliver_enabled state (List.ne_nil_of_mem member)
  · intro state next addressed taken
    rcases addressed_step state next .deliver (by simp [Allowed]) addressed taken with
      done | ⟨still, _, smaller⟩
    · exact .inl done
    · exact .inr ⟨still, smaller rfl⟩
  · intro state action next may addressed taken
    rcases addressed_step state next action may addressed taken with done | ⟨still, bounded, _⟩
    · exact .inl done
    · exact .inr ⟨still, bounded⟩

include cooperates in
theorem released_leads (fair : WeaklyFair run .startReturns) :
    LeadsTo run quiet Released fun state => state.caller = .idle := by
  apply leads_of_fair run quiet _ _ _ .startReturns fair
  · intro state released
    simp [step, show state.caller = .released from released]
  · intro state next released taken
    obtain ⟨_, rfl⟩ := by simpa [step] using taken
    rfl
  · apply unless_of_steps run quiet _ _ Allowed cooperates
    intro state action next _ released taken
    have caller : state.caller = .released := released
    rcases inside_step state next action taken (by simp [caller]) with
      same | ⟨rfl, _⟩ | ⟨blocked, _⟩ | ⟨_, idle⟩
    · exact .inl (same.trans caller)
    · simp [step, caller] at taken
    · rw [caller] at blocked
      exact Caller.noConfusion blocked
    · exact .inr idle

include cooperates in
theorem starting_leads (fair : WeaklyFair run .waitBits) :
    LeadsTo run quiet (fun state => state.caller = .starting)
      fun state => state.caller = .blocked ∨ Released state := by
  apply leads_of_fair run quiet _ _ _ .waitBits fair
  · intro state starting
    simp [step, starting]
  · intro state next starting taken
    rcases inside_step state next .waitBits taken (by simp [starting]) with
      same | ⟨_, done⟩ | ⟨blocked, _⟩ | ⟨impossible, _⟩
    · obtain ⟨_, rfl⟩ := by simpa [step] using taken
      cases bit : state.bit <;> simp [Released]
    · exact done
    · rw [starting] at blocked
      exact Caller.noConfusion blocked
    · exact Action.noConfusion impossible
  · apply unless_of_steps run quiet _ _ Allowed cooperates
    intro state action next _ starting taken
    rcases inside_step state next action taken (by simp [starting]) with
      same | ⟨_, done⟩ | ⟨blocked, _⟩ | ⟨rfl, _⟩
    · exact .inl (same.trans starting)
    · exact .inr done
    · rw [starting] at blocked
      exact Caller.noConfusion blocked
    · simp [step, starting] at taken

/-- The steps that are not left out for good. -/
structure Fair : Prop where
  waits : WeaklyFair run .waitBits
  returns : WeaklyFair run .startReturns
  delivers : WeaklyFair run .deliver
  associates : WeaklyFair run .associate
  addresses : WeaklyFair run .address

include cooperates in
theorem blocked_leads (fair : Fair run) (begins : run.state 0 = boot) :
    LeadsTo run quiet (fun state => state.caller = .blocked) Released := by
  have connected : LeadsTo run quiet (Asleep .connected) Released :=
    leads_trans run quiet _ _ _ (connected_leads run quiet cooperates fair.addresses)
      (leads_or run quiet _ _ _ (leads_of_imp run quiet _ _ fun _ released => released)
        (addressed_leads run quiet cooperates fair.delivers))
  have connecting : LeadsTo run quiet (Asleep .connecting) Released :=
    leads_trans run quiet _ _ _ (connecting_leads run quiet cooperates fair.associates)
      (leads_or run quiet _ _ _ (leads_of_imp run quiet _ _ fun _ released => released) connected)
  have started : LeadsTo run quiet (Asleep .started) Released :=
    leads_trans run quiet _ _ _ (started_leads run quiet cooperates fair.delivers)
      (leads_or run quiet _ _ _ (leads_of_imp run quiet _ _ fun _ released => released) connecting)
  intro time late blocked
  have alive := schedule_invariant run Alive (by rw [begins]; exact boot_alive)
    (fun state action next alive taken => alive_step state next action alive taken) time
  cases station : (run.state time).station with
  | stopped => exact absurd station (alive.powered (by simp [blocked]))
  | started => exact started time late ⟨blocked, alive, station⟩
  | connecting => exact connecting time late ⟨blocked, alive, station⟩
  | connected => exact connected time late ⟨blocked, alive, station⟩

end Progress

/-- A network that refuses the first connection, and then every action in turn. -/
def rotation : Nat → Action
  | 0 => .startWifi
  | 1 => .waitBits
  | 2 => .deliver
  | 3 => .refuse
  | time + 4 =>
      match time % 5 with
      | 0 => .deliver
      | 1 => .associate
      | 2 => .address
      | 3 => .waitBits
      | _ => .startReturns

theorem rotation_often (turn : Nat) (small : turn < 5) (time : Nat) :
    ∃ later, time ≤ later ∧ rotation later = rotation (turn + 4) := by
  refine ⟨time * 5 + turn + 4, by omega, ?_⟩
  have same : (time * 5 + turn) % 5 = turn % 5 := by omega
  simp only [rotation, same]

theorem rotation_allowed (time : Nat) (late : 4 ≤ time) : Allowed (rotation time) := by
  obtain ⟨turn, rfl⟩ := Nat.exists_eq_add_of_le' late
  have bound : turn % 5 < 5 := Nat.mod_lt _ (by decide)
  simp only [rotation, Allowed]
  split <;> simp

theorem rotation_fair : Fair (picked step boot rotation) where
  waits := picked_fair step boot rotation _ (rotation_often 3 (by decide))
  returns := picked_fair step boot rotation _ (rotation_often 4 (by decide))
  delivers := picked_fair step boot rotation _ (rotation_often 0 (by decide))
  associates := picked_fair step boot rotation _ (rotation_often 1 (by decide))
  addresses := picked_fair step boot rotation _ (rotation_often 2 (by decide))

end AirMonitor.Wifi
