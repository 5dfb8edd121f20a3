import AirMonitor.Machine

/-!
`start_wifi`, `stop_wifi` and `event_handler` of `wifi.c`. The application and the
event task meet in one bit of an event group. Only the handler touches the bit,
so between `stop_wifi` and the `DISCONNECTED` it queues the bit is out of date.
-/

namespace AirMonitor.Wifi
open Machine

inductive SystemEvent where
  | staStart
  | staStop
  | staConnected
  | staDisconnected
  | staGotIp
  deriving DecidableEq

/-- A queued event. `epoch` is for the statements only: how often `stop_wifi` had
been called when the event was queued. -/
structure Pending where
  event : SystemEvent
  epoch : Nat

/-- The station behind `esp_wifi_start`, `esp_wifi_connect` and `esp_wifi_stop`. -/
inductive Station where
  | stopped
  | started
  | connecting
  | connected
  deriving DecidableEq

/-- The application: outside `start_wifi`, between its two calls, asleep in
`xEventGroupWaitBits`, or let go by it. -/
inductive Caller where
  | idle
  | starting
  | blocked
  | released
  deriving DecidableEq

/-- `bit` is `CONNECTED_BIT`. `stops` and `handled` are for the statements only:
the calls of `stop_wifi`, and the epochs of the `GOT_IP` events handled. -/
structure State where
  station : Station
  queue : List Pending
  bit : Bool
  caller : Caller
  stops : Nat
  handled : List Nat

def boot : State := ⟨.stopped, [], false, .idle, 0, []⟩

def State.post (state : State) (event : SystemEvent) : State :=
  { state with queue := state.queue ++ [⟨event, state.stops⟩] }

def espWifiStart (state : State) : State :=
  match state.station with
  | .stopped => { state with station := .started }.post .staStart
  | _ => state

def espWifiConnect (state : State) : State :=
  match state.station with
  | .started => { state with station := .connecting }
  | _ => state

def espWifiStop (state : State) : State :=
  match state.station with
  | .stopped => state
  | .connected => ({ state with station := .stopped }.post .staDisconnected).post .staStop
  | _ => { state with station := .stopped }.post .staStop

/-- A task asleep on the bit is let go when it is set, and stays let go if the bit
is cleared before it runs. -/
def xEventGroupSetBits (state : State) : State :=
  { state with bit := true, caller := if state.caller = .blocked then .released else state.caller }

def xEventGroupClearBits (state : State) : State := { state with bit := false }

def eventHandler (state : State) (pending : Pending) : State :=
  match pending.event with
  | .staStart => espWifiConnect state
  | .staGotIp => xEventGroupSetBits { state with handled := pending.epoch :: state.handled }
  | .staDisconnected => xEventGroupClearBits (espWifiConnect state)
  | _ => state

inductive Action where
  -- the application: the two calls in `start_wifi`, its return, `stop_wifi`
  | startWifi
  | waitBits
  | startReturns
  | stopWifi
  -- the event task
  | deliver
  -- the network
  | associate
  | refuse
  | address
  | lose
  deriving DecidableEq

def step (state : State) : Action → Option State
  | .startWifi =>
      if state.caller = .idle then some { espWifiStart state with caller := .starting } else none
  | .waitBits =>
      if state.caller = .starting then
        some { state with caller := if state.bit then .released else .blocked }
      else none
  | .startReturns =>
      if state.caller = .released then some { state with caller := .idle } else none
  | .stopWifi =>
      if state.caller = .idle then
        some { espWifiStop state with stops := state.stops + 1 }
      else none
  | .deliver =>
      match state.queue with
      | [] => none
      | pending :: rest => some (eventHandler { state with queue := rest } pending)
  | .associate =>
      if state.station = .connecting then
        some ({ state with station := .connected }.post .staConnected)
      else none
  | .refuse =>
      if state.station = .connecting then
        some ({ state with station := .started }.post .staDisconnected)
      else none
  | .address => if state.station = .connected then some (state.post .staGotIp) else none
  | .lose =>
      if state.station = .connected then
        some ({ state with station := .started }.post .staDisconnected)
      else none

/-- A `GOT_IP` has been handled for a connection made since the last `stop_wifi`. -/
def Fresh (state : State) : Prop := state.stops ∈ state.handled

/-- The bit is clear, and no connection that `stop_wifi` ended can still set it. -/
def Clear (state : State) : Prop :=
  state.bit = false ∧
    ∀ pending ∈ state.queue, pending.event = .staGotIp → pending.epoch = state.stops

def Settled (state : State) : Prop := Fresh state ∨ Clear state

/-- Inside `start_wifi`: what keeps its return fresh. -/
def Safe (state : State) : Prop := Fresh state ∨ (Clear state ∧ state.caller ≠ .released)

/-! What a step can do: stop the station, hand over one event, or add events. -/

def stamped (events : List SystemEvent) (epoch : Nat) : List Pending :=
  events.map fun event => ⟨event, epoch⟩

structure Adds (state next : State) (events : List SystemEvent) : Prop where
  stops : next.stops = state.stops
  handled : next.handled = state.handled
  bit : next.bit = state.bit
  queue : next.queue = state.queue ++ stamped events state.stops
  released : next.caller = .released → state.caller = .released ∨ state.bit = true
  addressed : .staGotIp ∈ events → next.station = .connected
  parted : state.station = .connected → next.station = .connected ∨ .staDisconnected ∈ events

theorem start_adds (state : State) : ∃ events, Adds state (espWifiStart state) events := by
  unfold espWifiStart
  split
  · rename_i off
    exact ⟨[.staStart], rfl, rfl, rfl, rfl, .inl, by simp, by simp [off]⟩
  · exact ⟨[], rfl, rfl, rfl, by simp [stamped], .inl, by simp, .inl⟩

theorem stop_adds (state : State) :
    ∃ events, Adds state (espWifiStop state) events ∧ (espWifiStop state).station = .stopped ∧
      (espWifiStop state).caller = state.caller := by
  unfold espWifiStop
  split
  · rename_i off
    exact ⟨[], ⟨rfl, rfl, rfl, by simp [stamped], .inl, by simp, .inl⟩, off, rfl⟩
  · refine ⟨[.staDisconnected, .staStop], ⟨rfl, rfl, rfl, ?_, .inl, by simp, by simp⟩, rfl, rfl⟩
    simp [State.post, stamped]
  · rename_i other
    exact ⟨[.staStop], ⟨rfl, rfl, rfl, rfl, .inl, by simp, fun on => absurd on other⟩, rfl, rfl⟩

theorem step_cases (state next : State) (action : Action) (taken : step state action = some next) :
    (∃ pending rest, action = .deliver ∧ state.queue = pending :: rest ∧
      next = eventHandler { state with queue := rest } pending) ∨
    (action = .stopWifi ∧ state.caller = .idle ∧
      next = { espWifiStop state with stops := state.stops + 1 }) ∨
    (action ≠ .stopWifi ∧ ∃ events, Adds state next events) := by
  cases action with
  | startWifi =>
      obtain ⟨_, rfl⟩ := by simpa [step] using taken
      obtain ⟨events, adds⟩ := start_adds state
      exact .inr (.inr ⟨by simp, events, adds.stops, adds.handled, adds.bit, adds.queue, by simp,
        adds.addressed, adds.parted⟩)
  | waitBits =>
      obtain ⟨_, rfl⟩ := by simpa [step] using taken
      refine .inr (.inr ⟨by simp, [], rfl, rfl, rfl, by simp [stamped], ?_, by simp, .inl⟩)
      cases state.bit <;> simp
  | startReturns =>
      obtain ⟨_, rfl⟩ := by simpa [step] using taken
      exact .inr (.inr ⟨by simp, [], rfl, rfl, rfl, by simp [stamped], by simp, by simp, .inl⟩)
  | stopWifi =>
      obtain ⟨idle, rfl⟩ := by simpa [step] using taken
      exact .inr (.inl ⟨rfl, idle, rfl⟩)
  | deliver =>
      cases queued : state.queue with
      | nil => simp [step, queued] at taken
      | cons pending rest =>
          obtain rfl : eventHandler { state with queue := rest } pending = next := by
            simpa [step, queued] using taken
          exact .inl ⟨pending, rest, rfl, rfl, rfl⟩
  | associate =>
      obtain ⟨_, rfl⟩ := by simpa [step] using taken
      exact .inr (.inr ⟨by simp, [.staConnected], rfl, rfl, rfl, rfl, .inl, by simp,
        by simp [State.post]⟩)
  | refuse =>
      obtain ⟨off, rfl⟩ := by simpa [step] using taken
      exact .inr (.inr ⟨by simp, [.staDisconnected], rfl, rfl, rfl, rfl, .inl, by simp, by simp⟩)
  | address =>
      obtain ⟨on, rfl⟩ := by simpa [step] using taken
      exact .inr (.inr ⟨by simp, [.staGotIp], rfl, rfl, rfl, rfl, .inl, fun _ => on, .inl⟩)
  | lose =>
      obtain ⟨on, rfl⟩ := by simpa [step] using taken
      exact .inr (.inr ⟨by simp, [.staDisconnected], rfl, rfl, rfl, rfl, .inl, by simp, by simp⟩)

theorem handler_got (state : State) (pending : Pending) (got : pending.event = .staGotIp) :
    eventHandler state pending =
      xEventGroupSetBits { state with handled := pending.epoch :: state.handled } := by
  rw [eventHandler, got]

/-- What the handler does at any other event. -/
structure Keeps (event : SystemEvent) (before after : State) : Prop where
  queue : after.queue = before.queue
  caller : after.caller = before.caller
  stops : after.stops = before.stops
  handled : after.handled = before.handled
  station : after.station = .connected ↔ before.station = .connected
  bit : after.bit = if event = .staDisconnected then false else before.bit

theorem connect_keeps (state : State) : Keeps .staStart state (espWifiConnect state) := by
  unfold espWifiConnect
  split
  · rename_i begun
    exact ⟨rfl, rfl, rfl, rfl, by simp [begun], rfl⟩
  · exact ⟨rfl, rfl, rfl, rfl, Iff.rfl, rfl⟩

theorem handler_keeps (state : State) (pending : Pending) (other : pending.event ≠ .staGotIp) :
    Keeps pending.event state (eventHandler state pending) := by
  have connect := connect_keeps state
  obtain ⟨event, epoch⟩ := pending
  cases event with
  | staStart => exact connect
  | staStop => exact ⟨rfl, rfl, rfl, rfl, Iff.rfl, rfl⟩
  | staConnected => exact ⟨rfl, rfl, rfl, rfl, Iff.rfl, rfl⟩
  | staDisconnected =>
      exact ⟨connect.queue, connect.caller, connect.stops, connect.handled, connect.station, rfl⟩
  | staGotIp => exact absurd rfl other

theorem safe_adds (state next : State) (events : List SystemEvent) (adds : Adds state next events)
    (safe : Safe state) : Safe next := by
  rcases safe with fresh | ⟨⟨low, current⟩, held⟩
  · left
    rw [Fresh, adds.stops, adds.handled]
    exact fresh
  · refine .inr ⟨⟨adds.bit.trans low, ?_⟩, ?_⟩
    · intro pending member
      rw [adds.stops]
      rw [adds.queue] at member
      rcases List.mem_append.mp member with queued | posted
      · exact current pending queued
      · obtain ⟨event, _, rfl⟩ := List.mem_map.mp posted
        exact fun _ => rfl
    · intro released
      rcases adds.released released with before | high
      · exact held before
      · rw [low] at high
        exact Bool.noConfusion high

theorem safe_handler (state : State) (pending : Pending) (rest : List Pending)
    (queued : state.queue = pending :: rest) (safe : Safe state) :
    Safe (eventHandler { state with queue := rest } pending) := by
  by_cases got : pending.event = .staGotIp
  · -- the only event that sets the bit is one of the present epoch
    left
    rw [handler_got _ pending got]
    rcases safe with fresh | ⟨⟨_, current⟩, _⟩
    · exact List.mem_cons_of_mem _ fresh
    · have same := current pending (by rw [queued]; exact List.mem_cons_self) got
      rw [Fresh, xEventGroupSetBits, same]
      exact List.mem_cons_self
  · have keeps := handler_keeps { state with queue := rest } pending got
    rcases safe with fresh | ⟨⟨low, current⟩, held⟩
    · left
      rw [Fresh, keeps.stops, keeps.handled]
      exact fresh
    · refine .inr ⟨⟨?_, ?_⟩, ?_⟩
      · rw [keeps.bit, low, ite_self]
      · intro later member
        rw [keeps.queue] at member
        rw [keeps.stops]
        exact current later (by rw [queued]; exact List.mem_cons_of_mem _ member)
      · rw [keeps.caller]
        exact held

theorem safe_step (state next : State) (action : Action) (taken : step state action = some next)
    (on : action ≠ .stopWifi) (safe : Safe state) : Safe next := by
  rcases step_cases state next action taken with
    ⟨pending, rest, _, queued, rfl⟩ | ⟨stops, _⟩ | ⟨_, events, adds⟩
  · exact safe_handler state pending rest queued safe
  · exact absurd stops on
  · exact safe_adds state next events adds safe

theorem handler_idle (state : State) (pending : Pending) (idle : state.caller = .idle) :
    (eventHandler state pending).caller = .idle := by
  by_cases got : pending.event = .staGotIp
  · rw [handler_got state pending got]
    simp [xEventGroupSetBits, idle]
  · exact (handler_keeps state pending got).caller.trans idle

/-- Outside `start_wifi` the application stays outside until it calls it. -/
theorem idle_step (state next : State) (action : Action) (taken : step state action = some next)
    (other : action ≠ .startWifi) (idle : state.caller = .idle) : next.caller = .idle := by
  cases action with
  | startWifi => exact absurd rfl other
  | waitBits => simp [step, idle] at taken
  | startReturns => simp [step, idle] at taken
  | stopWifi =>
      obtain ⟨_, rfl⟩ := by simpa [step] using taken
      obtain ⟨_, _, _, same⟩ := stop_adds state
      exact same.trans idle
  | deliver =>
      cases queued : state.queue with
      | nil => simp [step, queued] at taken
      | cons pending rest =>
          obtain rfl : eventHandler { state with queue := rest } pending = next := by
            simpa [step, queued] using taken
          exact handler_idle _ pending idle
  | associate | refuse | address | lose =>
      obtain ⟨_, rfl⟩ := by simpa [step] using taken
      exact idle

/-- The caller is outside `start_wifi` or what it will return to is safe. -/
def Guarded (state : State) : Prop := state.caller = .idle ∨ Safe state

theorem settled_safe (state : State) (idle : state.caller = .idle) (settled : Settled state) :
    Safe state := by
  rcases settled with fresh | clear
  · exact .inl fresh
  · exact .inr ⟨clear, by simp [idle]⟩

theorem guarded_step (state next : State) (action : Action)
    (settled : action = .startWifi → Settled state) (guarded : Guarded state)
    (taken : step state action = some next) : Guarded next := by
  rcases guarded with idle | safe
  · by_cases starts : action = .startWifi
    · right
      have safe := settled_safe state idle (settled starts)
      exact safe_step state next action taken (by simp [starts]) safe
    · exact .inl (idle_step state next action taken starts idle)
  · by_cases stops : action = .stopWifi
    · left
      subst stops
      have idle : state.caller = .idle := (by simpa [step] using taken : _ ∧ _).1
      exact idle_step state next .stopWifi taken (by simp) idle
    · exact .inr (safe_step state next action taken stops safe)

theorem return_fresh (state after : State) (returned : step state .startReturns = some after)
    (guarded : Guarded state) : Fresh after := by
  obtain ⟨released, rfl⟩ := by simpa [step] using returned
  rcases guarded with idle | fresh | ⟨_, held⟩
  · rw [idle] at released
    exact Caller.noConfusion released
  · exact fresh
  · exact absurd released held

/-! The bit and the events in flight. A `GOT_IP`, queued or already standing in the
bit, belongs to the present connection or has its `DISCONNECTED` behind it. -/

def Explained (stops : Nat) (connected : Prop) : List Pending → Prop
  | [] => True
  | pending :: rest =>
      (pending.event = .staGotIp →
        (pending.epoch = stops ∧ connected) ∨ ⟨.staDisconnected, pending.epoch⟩ ∈ rest) ∧
      Explained stops connected rest

/-- The bit as the event that set it, in front of the queue. -/
def claims (state : State) : List Pending :=
  (if state.bit then stamped [.staGotIp] (state.handled.headD 0) else []) ++ state.queue

structure Sound (state : State) : Prop where
  ordered : state.queue.Pairwise fun first second => first.epoch ≤ second.epoch
  past : ∀ pending ∈ state.queue, pending.epoch ≤ state.stops
  backed : state.bit = true → state.handled ≠ []
  explained : Explained state.stops (state.station = .connected) (claims state)

theorem explained_suffix (stops : Nat) (connected : Prop) (front back : List Pending)
    (whole : Explained stops connected (front ++ back)) : Explained stops connected back := by
  induction front with
  | nil => exact whole
  | cons pending rest ih => exact ih whole.2

theorem explained_stamped (events : List SystemEvent) (stops : Nat) (connected : Prop)
    (addressed : .staGotIp ∈ events → connected) :
    Explained stops connected (stamped events stops) := by
  induction events with
  | nil => trivial
  | cons event rest ih =>
      refine ⟨?_, ih fun later => addressed (List.mem_cons_of_mem _ later)⟩
      intro got
      exact .inl ⟨rfl, addressed (by rw [← got]; exact List.mem_cons_self)⟩

theorem explained_add (stops : Nat) (before after : Prop) (events : List SystemEvent)
    (addressed : .staGotIp ∈ events → after) (parted : before → after ∨ .staDisconnected ∈ events)
    (queue : List Pending) (whole : Explained stops before queue) :
    Explained stops after (queue ++ stamped events stops) := by
  induction queue with
  | nil => exact explained_stamped events stops after addressed
  | cons pending rest ih =>
      refine ⟨?_, ih whole.2⟩
      intro got
      rcases whole.1 got with ⟨present, connected⟩ | ended
      · rcases parted connected with still | gone
        · exact .inl ⟨present, still⟩
        · right
          rw [present]
          exact List.mem_append_right _ (List.mem_map.mpr ⟨_, gone, rfl⟩)
      · exact .inr (List.mem_append_left _ ended)

/-- Once the station is stopped every `GOT_IP` left is on its way out. -/
theorem explained_stopped (stops next : Nat) (connected : Prop) (queue : List Pending)
    (whole : Explained stops False queue) : Explained next connected queue := by
  induction queue with
  | nil => trivial
  | cons pending rest ih =>
      refine ⟨?_, ih whole.2⟩
      intro got
      rcases whole.1 got with ⟨_, impossible⟩ | ended
      · exact impossible.elim
      · exact .inr ended

theorem explained_mono (stops : Nat) (before after : Prop) (weaker : before → after)
    (queue : List Pending) (whole : Explained stops before queue) :
    Explained stops after queue := by
  have same :=
    explained_add stops before after [] (by simp) (fun now => .inl (weaker now)) queue whole
  rwa [stamped, List.map_nil, List.append_nil] at same

theorem sound_adds (state next : State) (events : List SystemEvent)
    (adds : Adds state next events) (sound : Sound state) : Sound next := by
  have added (pending : Pending) (member : pending ∈ stamped events state.stops) :
      pending.epoch = state.stops := by
    obtain ⟨_, _, rfl⟩ := List.mem_map.mp member
    rfl
  refine ⟨?_, ?_, ?_, ?_⟩
  · rw [adds.queue, List.pairwise_append]
    refine ⟨sound.ordered, ?_, ?_⟩
    · exact List.pairwise_map.mpr (List.pairwise_of_forall fun _ _ => Nat.le_refl _)
    · intro first queued second posted
      rw [added second posted]
      exact sound.past first queued
  · intro pending member
    rw [adds.queue] at member
    rw [adds.stops]
    rcases List.mem_append.mp member with queued | posted
    · exact sound.past pending queued
    · exact Nat.le_of_eq (added pending posted)
  · rw [adds.bit, adds.handled]
    exact sound.backed
  · rw [claims, adds.bit, adds.handled, adds.queue, adds.stops, ← List.append_assoc]
    exact explained_add state.stops _ _ events adds.addressed adds.parted (claims state)
      sound.explained

theorem sound_stop (state : State) (sound : Sound state) :
    Sound { espWifiStop state with stops := state.stops + 1 } := by
  obtain ⟨events, adds, stopped, _⟩ := stop_adds state
  have held := sound_adds state (espWifiStop state) events adds sound
  refine ⟨held.ordered, ?_, held.backed, ?_⟩
  · intro pending member
    exact Nat.le_succ_of_le (adds.stops ▸ held.past pending member)
  · have off : Explained (espWifiStop state).stops False (claims (espWifiStop state)) :=
      explained_mono _ _ _ (by simp [stopped]) _ held.explained
    exact explained_stopped _ _ _ _ off

theorem explained_drop (stops : Nat) (connected : Prop) (front back : List Pending)
    (pending : Pending) (other : pending.event ≠ .staDisconnected)
    (whole : Explained stops connected (front ++ pending :: back)) :
    Explained stops connected (front ++ back) := by
  induction front with
  | nil => exact whole.2
  | cons first rest ih =>
      refine ⟨?_, ih whole.2⟩
      intro got
      rcases whole.1 got with present | ended
      · exact .inl present
      · right
        rcases List.mem_append.mp ended with before | after
        · exact List.mem_append_left _ before
        · rcases List.mem_cons.mp after with same | behind
          · exact absurd (congrArg Pending.event same).symm other
          · exact List.mem_append_right _ behind

theorem sound_handler (state : State) (pending : Pending) (rest : List Pending)
    (queued : state.queue = pending :: rest) (sound : Sound state) :
    Sound (eventHandler { state with queue := rest } pending) := by
  have ordered := sound.ordered
  have past := sound.past
  have explained := sound.explained
  rw [queued, List.pairwise_cons] at ordered
  rw [queued] at past
  rw [claims, queued] at explained
  have tail (later : Pending) (member : later ∈ rest) : later.epoch ≤ state.stops :=
    past later (List.mem_cons_of_mem _ member)
  have ending := explained_suffix _ _ _ _ explained
  by_cases got : pending.event = .staGotIp
  · -- it now stands in the bit, in front of the same events as before
    rw [handler_got _ pending got]
    obtain ⟨event, epoch⟩ := pending
    obtain rfl : event = .staGotIp := got
    exact ⟨ordered.2, tail, fun _ => List.cons_ne_nil _ _, ending⟩
  · have keeps := handler_keeps { state with queue := rest } pending got
    refine ⟨?_, ?_, ?_, ?_⟩
    · rw [keeps.queue]
      exact ordered.2
    · rw [keeps.queue, keeps.stops]
      exact tail
    · intro high
      rw [keeps.handled]
      apply sound.backed
      rw [keeps.bit] at high
      by_cases parted : pending.event = .staDisconnected
      · rw [if_pos parted] at high
        exact Bool.noConfusion high
      · rwa [if_neg parted] at high
    · rw [claims, keeps.bit, keeps.handled, keeps.queue, keeps.stops]
      apply explained_mono _ _ _ keeps.station.mpr
      by_cases parted : pending.event = .staDisconnected
      · rw [if_pos parted]
        exact ending.2
      · rw [if_neg parted]
        exact explained_drop _ _ _ _ pending parted explained

theorem sound_step (state next : State) (action : Action) (taken : step state action = some next)
    (sound : Sound state) : Sound next := by
  rcases step_cases state next action taken with
    ⟨pending, rest, _, queued, rfl⟩ | ⟨_, _, rfl⟩ | ⟨_, events, adds⟩
  · exact sound_handler state pending rest queued sound
  · exact sound_stop state sound
  · exact sound_adds state next events adds sound

theorem boot_sound : Sound boot :=
  ⟨.nil, by simp [boot], by simp [boot], trivial⟩

theorem runs_sound (actions : List Action) (state : State)
    (ran : run step boot actions = some state) : Sound state :=
  run_invariant step Sound (fun _ _ => True)
    (fun state next action _ sound taken => sound_step state action next taken sound)
    boot boot_sound actions (fun _ _ _ _ _ _ => trivial) state ran

/-- Nothing queued before the last `stop_wifi` is left. -/
def Drained (state : State) : Prop := ∀ pending ∈ state.queue, pending.epoch = state.stops

theorem drained_settled (actions : List Action) (state : State)
    (ran : run step boot actions = some state) (drained : Drained state) : Settled state := by
  have sound := runs_sound actions state ran
  cases bit : state.bit with
  | false => exact .inr ⟨bit, fun pending member _ => drained pending member⟩
  | true =>
      -- the event that set the bit is of the present connection, or the event
      -- that will clear it is still queued, and then it is of the present epoch too
      left
      have explained := sound.explained
      rw [claims, bit] at explained
      have present : state.handled.headD 0 = state.stops := by
        rcases explained.1 rfl with ⟨same, _⟩ | ended
        · exact same
        · exact drained _ ended
      cases log : state.handled with
      | nil => exact absurd log (sound.backed bit)
      | cons epoch others =>
          rw [log] at present
          rw [Fresh, log, ← present]
          exact List.mem_cons_self

/-! Where a call is made unsettled, some interleaving makes its return stale. -/

/-- From here deliveries alone let the caller go, with nothing fresh handled. -/
def StaleRelease (state : State) : Prop :=
  ∃ count after, run step state (List.replicate count .deliver) = some after ∧
    after.caller = .released ∧ ¬ Fresh after

theorem stale_head (state : State) (pending : Pending) (rest : List Pending)
    (blocked : state.caller = .blocked) (stale : ¬ Fresh state)
    (queued : state.queue = pending :: rest) (got : pending.event = .staGotIp)
    (ended : pending.epoch < state.stops) : StaleRelease state := by
  refine ⟨1, eventHandler { state with queue := rest } pending, ?_, ?_, ?_⟩
  · rw [List.replicate_one, run_one, step, queued]
  · simp [eventHandler, got, xEventGroupSetBits, blocked]
  · have other : state.stops ≠ pending.epoch := Nat.ne_of_gt ended
    simpa [eventHandler, got, xEventGroupSetBits, Fresh, other] using stale

theorem stale_release (state : State) (front back : List Pending) (pending : Pending)
    (blocked : state.caller = .blocked) (stale : ¬ Fresh state)
    (queued : state.queue = front ++ pending :: back) (got : pending.event = .staGotIp)
    (ended : pending.epoch < state.stops)
    (before : ∀ earlier ∈ front, earlier.epoch ≤ pending.epoch) : StaleRelease state := by
  -- on the events in front: the first `GOT_IP` among them is as stale as the last
  induction front generalizing state with
  | nil => exact stale_head state pending back blocked stale queued got ended
  | cons head rest ih =>
      by_cases addressed : head.event = .staGotIp
      · have older := Nat.lt_of_le_of_lt (before head List.mem_cons_self) ended
        exact stale_head state head (rest ++ pending :: back) blocked stale queued addressed older
      · have keeps := handler_keeps { state with queue := rest ++ pending :: back } head addressed
        have taken : step state .deliver =
            some (eventHandler { state with queue := rest ++ pending :: back } head) := by
          rw [step, queued]
          rfl
        obtain ⟨count, after, ran, released, unfresh⟩ := ih _ (keeps.caller.trans blocked)
          (by rw [Fresh, keeps.stops, keeps.handled]; exact stale) keeps.queue
          (by rw [keeps.stops]; exact ended)
          fun earlier member => before earlier (List.mem_cons_of_mem _ member)
        exact ⟨count + 1, after, by rw [List.replicate_succ, run_cons step _ _ _ _ taken, ran],
          released, unfresh⟩

/-- The two calls of `start_wifi` taken without a delivery between them. -/
theorem start_waits (state : State) (idle : state.caller = .idle) :
    ∃ waiting events, run step state [.startWifi, .waitBits] = some waiting ∧
      waiting.caller = (if state.bit then .released else .blocked) ∧
      waiting.queue = state.queue ++ stamped events state.stops ∧
      waiting.stops = state.stops ∧ waiting.handled = state.handled := by
  obtain ⟨events, adds⟩ := start_adds state
  refine ⟨{ espWifiStart state with caller := if state.bit then .released else .blocked }, events,
    ?_, rfl, adds.queue, adds.stops, adds.handled⟩
  simp [run, step, idle, adds.bit]

theorem unsettled_returns_stale (state : State) (sound : Sound state)
    (idle : state.caller = .idle) (unsettled : ¬ Settled state) :
    ∃ later after, .stopWifi ∉ later ∧
      run step state (.startWifi :: later ++ [.startReturns]) = some after ∧ ¬ Fresh after := by
  obtain ⟨waiting, events, ran, caller, queue, stops, handled⟩ := start_waits state idle
  have stale : ¬ Fresh waiting := by
    rw [Fresh, stops, handled]
    exact fun fresh => unsettled (.inl fresh)
  have release : StaleRelease waiting := by
    cases bit : state.bit with
    | true => exact ⟨0, waiting, rfl, by rw [caller, bit]; rfl, stale⟩
    | false =>
        have old : ∃ pending ∈ state.queue, pending.event = .staGotIp ∧
            pending.epoch ≠ state.stops := by
          by_contra none
          push Not at none
          exact unsettled (.inr ⟨bit, none⟩)
        obtain ⟨pending, member, got, other⟩ := old
        obtain ⟨front, back, split⟩ := List.append_of_mem member
        have ordered := sound.ordered
        rw [split, List.pairwise_append] at ordered
        apply stale_release waiting front (back ++ stamped events state.stops) pending _ stale _ got
        · rw [stops]
          exact Nat.lt_of_le_of_ne (sound.past pending member) other
        · intro earlier before
          exact ordered.2.2 earlier before pending List.mem_cons_self
        · rw [caller, bit]
          rfl
        · rw [queue, split, List.append_assoc]
          rfl
  obtain ⟨count, last, delivered, released, unfresh⟩ := release
  refine ⟨.waitBits :: List.replicate count .deliver, { last with caller := .idle }, ?_, ?_,
    unfresh⟩
  · simp [List.mem_replicate]
  · have whole : run step state ([.startWifi, .waitBits] ++
        (List.replicate count .deliver ++ [.startReturns])) =
        some { last with caller := .idle } := by
      refine (run_append step _ _ _ _).mpr ⟨waiting, ran, ?_⟩
      refine (run_append step _ _ _ _).mpr ⟨last, delivered, ?_⟩
      rw [run_one, step, if_pos released]
    exact whole

/-- The runs whose calls of `start_wifi` are all made settled. -/
def SettledStarts (actions : List Action) : Prop :=
  ∀ front back state, actions = front ++ .startWifi :: back →
    run step boot front = some state → Settled state

theorem start_returns_fresh (actions : List Action) :
    (SettledStarts actions →
      ∀ after, run step boot (actions ++ [.startReturns]) = some after → Fresh after) ∧
    ∀ state, run step boot actions = some state → state.caller = .idle →
      (Settled state ↔ ∀ later after, .stopWifi ∉ later →
        run step state (.startWifi :: later ++ [.startReturns]) = some after → Fresh after) := by
  constructor
  · intro settled after ran
    obtain ⟨last, reached, returned⟩ := (run_append step _ _ _ _).mp ran
    apply return_fresh last after ((run_one step _ _ _).mp returned)
    apply run_invariant step Guarded (fun state action => action = .startWifi → Settled state)
      _ boot (.inl rfl) actions _ last reached
    · intro state action next starts guarded taken
      exact guarded_step state next action starts guarded taken
    · rintro front action back state split before rfl
      exact settled front back state split before
  · intro state ran idle
    constructor
    · intro settled later after going returned
      obtain ⟨last, reached, leaving⟩ := (run_append step _ _ _ _).mp returned
      apply return_fresh last after ((run_one step _ _ _).mp leaving)
      right
      apply run_invariant step Safe (fun _ action => action ≠ .stopWifi) _ state
        (settled_safe state idle settled) _ _ last reached
      · intro before action next on safe taken
        exact safe_step before next action taken on safe
      · rintro front action back _ split _ rfl
        have member : Action.stopWifi ∈ Action.startWifi :: later := by
          rw [split]
          simp
        exact going (by simpa using member)
    · intro fresh
      by_contra unsettled
      obtain ⟨later, after, going, returned, stale⟩ :=
        unsettled_returns_stale state (runs_sound actions state ran) idle unsettled
      exact stale (fresh later after going returned)

def firstConnection : List Action :=
  [.startWifi, .waitBits, .deliver, .associate, .address, .deliver, .deliver]

/-- Stop, let the event task empty the queue, and start again. -/
def quietRestart : List Action :=
  firstConnection ++ [.startReturns, .stopWifi, .deliver, .deliver, .startWifi, .waitBits, .deliver,
    .associate, .address, .deliver, .deliver]

theorem restart_settled : SettledStarts quietRestart := by
  intro front back state split reached
  have head : quietRestart.take front.length = front := by simp [split]
  have starts : quietRestart[front.length]? = some .startWifi := by simp [split]
  have inside : front.length < 18 := (List.getElem?_eq_some_iff.mp starts).1
  have places : ∀ n < 18, quietRestart[n]? = some .startWifi → n = 0 ∨ n = 11 := by decide
  rw [← head] at reached
  rcases places front.length inside starts with first | second
  · rw [first] at reached
    obtain rfl : boot = state := Option.some.inj reached
    exact .inr ⟨rfl, by simp [boot]⟩
  · rw [second] at reached
    obtain rfl : (⟨.stopped, [], false, .idle, 1, [0]⟩ : State) = state := Option.some.inj reached
    exact .inr ⟨rfl, by simp⟩

theorem start_returns_fresh_restart :
    ∃ after, run step boot (quietRestart ++ [.startReturns]) = some after ∧ after.stops = 1 ∧
      Fresh after :=
  ⟨⟨.connected, [], true, .idle, 1, [1, 0]⟩, rfl, rfl,
    (start_returns_fresh quietRestart).1 restart_settled _ rfl⟩

/-- Stop and start again at once: the bit of the first connection is still set. -/
def restart : List Action := firstConnection ++ [.startReturns, .stopWifi, .startWifi, .waitBits]

theorem stale_connection_returned :
    ∃ after, run step boot (restart ++ [.startReturns]) = some after ∧
      after.stops = 1 ∧ after.handled = [0] ∧ ¬ Fresh after :=
  ⟨⟨.started, [⟨.staDisconnected, 0⟩, ⟨.staStop, 0⟩, ⟨.staStart, 1⟩], true, .idle, 1, [0]⟩,
    rfl, rfl, rfl, by simp [Fresh]⟩

end AirMonitor.Wifi
