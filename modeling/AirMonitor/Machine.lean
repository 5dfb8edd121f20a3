import Mathlib.Data.List.Basic

/-!
Machines given by a partial step function, `none` where an action is not
enabled, and the runs of action lists through them.
-/

namespace AirMonitor.Machine

universe u v
variable {State : Type u} {Action : Type v} (step : State → Action → Option State)

def run (state : State) : List Action → Option State
  | [] => some state
  | action :: rest =>
      match step state action with
      | some next => run next rest
      | none => none

theorem run_append (start : State) (front back : List Action) (final : State) :
    run step start (front ++ back) = some final ↔
      ∃ middle, run step start front = some middle ∧ run step middle back = some final := by
  induction front generalizing start with
  | nil => simp [run]
  | cons action rest ih =>
      cases taken : step start action with
      | none => simp [run, taken]
      | some next => simpa [run, taken] using ih next

theorem run_one (state : State) (action : Action) (final : State) :
    run step state [action] = some final ↔ step state action = some final := by
  cases taken : step state action <;> simp [run, taken]

theorem run_cons (state next : State) (action : Action) (rest : List Action)
    (taken : step state action = some next) :
    run step state (action :: rest) = run step next rest := by
  simp [run, taken]

/-- Invariant rule. A step need keep the invariant only where its guard holds,
and the guard is owed at every action of the run. -/
theorem run_invariant (Inv : State → Prop) (Guard : State → Action → Prop)
    (kept : ∀ state action next, Guard state action → Inv state →
      step state action = some next → Inv next)
    (start : State) (initial : Inv start) (actions : List Action)
    (guarded : ∀ front action back state, actions = front ++ action :: back →
      run step start front = some state → Guard state action)
    (final : State) (ran : run step start actions = some final) : Inv final := by
  induction actions generalizing start with
  | nil =>
      obtain rfl : start = final := Option.some.inj ran
      exact initial
  | cons action rest ih =>
      cases taken : step start action with
      | none => simp [run, taken] at ran
      | some next =>
          rw [run_cons step start next action rest taken] at ran
          have held := kept start action next (guarded [] action rest start rfl rfl) initial taken
          apply ih next held _ ran
          intro front later back state split reached
          apply guarded (action :: front) later back state (by rw [split]; rfl)
          rw [run_cons step start next action front taken]
          exact reached

/-! Machines that answer every input, and a view of one that is another. -/

section Answering
variable {Low High Input Output : Type}

def transcript (serve : Low → Input → Output × Low) (state : Low) : List Input → List Output × Low
  | [] => ([], state)
  | input :: rest =>
      let done := serve state input
      let later := transcript serve done.2 rest
      (done.1 :: later.1, later.2)

/-- Refinement rule: answers and view agree over a whole run when they do at each
step from a state of the invariant. -/
theorem transcript_refines (lower : Low → Input → Output × Low)
    (upper : High → Input → Output × High) (view : Low → High) (Inv : Low → Prop)
    (Fine : Input → Prop)
    (kept : ∀ state input, Inv state → Fine input → Inv (lower state input).2)
    (agrees : ∀ state input, Inv state → Fine input →
      ((lower state input).1, view (lower state input).2) = upper (view state) input)
    (start : Low) (initial : Inv start) (inputs : List Input)
    (fine : ∀ input ∈ inputs, Fine input) :
    ((transcript lower start inputs).1, view (transcript lower start inputs).2) =
        transcript upper (view start) inputs ∧ Inv (transcript lower start inputs).2 := by
  induction inputs generalizing start with
  | nil => exact ⟨rfl, initial⟩
  | cons input rest ih =>
      have now := fine input List.mem_cons_self
      have next := kept start input initial now
      obtain ⟨same, last⟩ := ih _ next fun other member => fine other (List.mem_cons_of_mem _ member)
      have step := agrees start input initial now
      refine ⟨?_, last⟩
      rw [transcript, transcript, ← step, ← same]

end Answering

end AirMonitor.Machine
