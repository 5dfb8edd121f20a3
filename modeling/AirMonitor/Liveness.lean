import AirMonitor.Machine

/-!
Infinite runs of a partial machine under weak fairness, and what they lead to.
The rules ask only for facts about single steps.
-/

namespace AirMonitor.Liveness

universe u v
variable {State : Type u} {Action : Type v}

/-- At a time without an action the machine rests. -/
structure Schedule (step : State → Action → Option State) where
  state : Nat → State
  action : Nat → Option Action
  moves : ∀ time,
    match action time with
    | some taken => step (state time) taken = some (state (time + 1))
    | none => state (time + 1) = state time

variable {step : State → Action → Option State} (run : Schedule step)

def WeaklyFair (action : Action) : Prop :=
  ∀ time, (∀ later, time ≤ later → step (run.state later) action ≠ none) →
    ∃ later, time ≤ later ∧ run.action later = some action

def LeadsTo (start : Nat) (P Q : State → Prop) : Prop :=
  ∀ time, start ≤ time → P (run.state time) → ∃ later, time ≤ later ∧ Q (run.state later)

/-- Once `P` holds it goes on holding unless `Q` does. -/
def Unless (start : Nat) (P Q : State → Prop) : Prop :=
  ∀ time, start ≤ time → P (run.state time) →
    P (run.state (time + 1)) ∨ Q (run.state (time + 1))

theorem moved (time : Nat) (action : Action) (taken : run.action time = some action) :
    step (run.state time) action = some (run.state (time + 1)) := by
  have moves := run.moves time
  rwa [taken] at moves

theorem rested (time : Nat) (idle : run.action time = none) :
    run.state (time + 1) = run.state time := by
  have moves := run.moves time
  rwa [idle] at moves

theorem schedule_invariant (Inv : State → Prop) (initial : Inv (run.state 0))
    (kept : ∀ state action next, Inv state → step state action = some next → Inv next)
    (time : Nat) : Inv (run.state time) := by
  induction time with
  | zero => exact initial
  | succ time ih =>
      cases taken : run.action time with
      | none =>
          rw [rested run time taken]
          exact ih
      | some action => exact kept _ action _ ih (moved run time action taken)

variable (start : Nat) (P Q R : State → Prop)

theorem leads_of_imp (weaker : ∀ state, P state → Q state) : LeadsTo run start P Q :=
  fun time _ holds => ⟨time, Nat.le_refl time, weaker _ holds⟩

theorem leads_trans (front : LeadsTo run start P Q) (back : LeadsTo run start Q R) :
    LeadsTo run start P R := by
  intro time late holds
  obtain ⟨middle, after, reached⟩ := front time late holds
  obtain ⟨last, further, done⟩ := back middle (Nat.le_trans late after) reached
  exact ⟨last, Nat.le_trans after further, done⟩

theorem leads_or (left : LeadsTo run start P R) (right : LeadsTo run start Q R) :
    LeadsTo run start (fun state => P state ∨ Q state) R := by
  intro time late holds
  rcases holds with one | other
  · exact left time late one
  · exact right time late other

/-- Step rule for `Unless`, with the actions that are still to be reckoned with. -/
theorem unless_of_steps (Allowed : Action → Prop)
    (allowed : ∀ time, start ≤ time → ∀ action, run.action time = some action → Allowed action)
    (kept : ∀ state action next, Allowed action → P state → step state action = some next →
      P next ∨ Q next) : Unless run start P Q := by
  intro time late holds
  cases taken : run.action time with
  | none =>
      left
      rw [rested run time taken]
      exact holds
  | some action =>
      exact kept _ action _ (allowed time late action taken) holds (moved run time action taken)

/-- Fairness rule: a fair action that is enabled under `P` and then gives `Q`. -/
theorem leads_of_fair (stays : Unless run start P Q) (action : Action)
    (fair : WeaklyFair run action) (enabled : ∀ state, P state → step state action ≠ none)
    (helps : ∀ state next, P state → step state action = some next → Q next) :
    LeadsTo run start P Q := by
  intro time late holds
  by_contra never
  have lasts (count : Nat) : P (run.state (time + count)) := by
    induction count with
    | zero => exact holds
    | succ count ih =>
        rcases stays (time + count) (by omega) ih with still | done
        · exact still
        · exact absurd ⟨time + count + 1, by omega, done⟩ never
  have forever (later : Nat) (after : time ≤ later) : P (run.state later) := by
    have same : time + (later - time) = later := by omega
    rw [← same]
    exact lasts (later - time)
  obtain ⟨later, after, taken⟩ := fair time fun later after => enabled _ (forever later after)
  have done := helps _ _ (forever later after) (moved run later action taken)
  exact never ⟨later + 1, by omega, done⟩

/-- Induction rule: `P` that leads to `Q` or to itself at a smaller measure. -/
theorem leads_of_measure (measure : State → Nat)
    (level : ∀ bound, LeadsTo run start (fun state => P state ∧ measure state = bound)
      fun state => Q state ∨ P state ∧ measure state < bound) : LeadsTo run start P Q := by
  intro time late holds
  induction size : measure (run.state time) using Nat.strongRecOn generalizing time with
  | ind bound ih =>
      obtain ⟨later, after, reached⟩ := level bound time late ⟨holds, size⟩
      rcases reached with done | ⟨still, smaller⟩
      · exact ⟨later, after, done⟩
      · obtain ⟨last, further, done⟩ := ih _ smaller later (Nat.le_trans late after) still rfl
        exact ⟨last, Nat.le_trans after further, done⟩

/-- Ranking rule: no step lets the measure grow under `P`, the fair action makes it
smaller. -/
theorem leads_by_rank (measure : State → Nat) (Allowed : Action → Prop)
    (allowed : ∀ time, start ≤ time → ∀ action, run.action time = some action → Allowed action)
    (kept : ∀ state action next, Allowed action → P state → step state action = some next →
      Q next ∨ P next ∧ measure next ≤ measure state)
    (action : Action) (fair : WeaklyFair run action)
    (enabled : ∀ state, P state → step state action ≠ none)
    (helps : ∀ state next, P state → step state action = some next →
      Q next ∨ P next ∧ measure next < measure state) : LeadsTo run start P Q := by
  apply leads_of_measure run start P Q measure
  intro bound
  apply leads_of_fair run start _ _ _ action fair
  · rintro state ⟨holds, _⟩
    exact enabled state holds
  · rintro state next ⟨holds, rfl⟩ taken
    exact helps state next holds taken
  · apply unless_of_steps run start _ _ Allowed allowed
    rintro state other next may ⟨holds, rfl⟩ taken
    rcases kept state other next may holds taken with done | ⟨still, bounded⟩
    · exact .inr (.inl done)
    · rcases Nat.lt_or_eq_of_le bounded with smaller | same
      · exact .inr (.inr ⟨still, smaller⟩)
      · exact .inl ⟨still, same⟩

/-! Schedules that pick an action at every time and rest where it is not enabled. -/

section Picked
variable (step : State → Action → Option State) (first : State) (pick : Nat → Action)

def pickedState : Nat → State
  | 0 => first
  | time + 1 => (step (pickedState time) (pick time)).getD (pickedState time)

theorem picked_moves (time : Nat) :
    match if (step (pickedState step first pick time) (pick time)).isSome then some (pick time)
      else none with
    | some taken => step (pickedState step first pick time) taken =
        some (pickedState step first pick (time + 1))
    | none => pickedState step first pick (time + 1) = pickedState step first pick time := by
  cases taken : step (pickedState step first pick time) (pick time) with
  | none => simp [pickedState, taken]
  | some next => simp [pickedState, taken]

def picked : Schedule step where
  state := pickedState step first pick
  action time :=
    if (step (pickedState step first pick time) (pick time)).isSome then some (pick time) else none
  moves := picked_moves step first pick

theorem picked_action (time : Nat) (action : Action)
    (taken : (picked step first pick).action time = some action) : action = pick time := by
  simp only [picked] at taken
  split at taken
  · exact (Option.some.inj taken).symm
  · exact absurd taken (by simp)

theorem picked_fair (action : Action)
    (often : ∀ time, ∃ later, time ≤ later ∧ pick later = action) :
    WeaklyFair (picked step first pick) action := by
  intro time enabled
  obtain ⟨later, after, chosen⟩ := often time
  refine ⟨later, after, ?_⟩
  have possible := enabled later after
  rw [← chosen, ← Option.isSome_iff_ne_none] at possible
  rw [← chosen]
  exact if_pos possible

end Picked

end AirMonitor.Liveness
