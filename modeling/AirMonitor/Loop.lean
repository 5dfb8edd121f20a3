import Mathlib.Logic.Basic

/-!
`while (1)` loops left by `break`. One pass of the body either falls through to
the next pass (`.inl`) or leaves the loop (`.inr`). Fuel counts passes: a loop
that never leaves has no result at any fuel, so returning and diverging are both
stated without assuming termination.
-/

namespace AirMonitor.Loop

universe u v
variable {State : Type u} {Out : Type v}

def runFor (body : State → State ⊕ Out) : Nat → State → Option Out
  | 0, _ => none
  | fuel + 1, state =>
      match body state with
      | .inl next => runFor body fuel next
      | .inr out => some out

def Returns (body : State → State ⊕ Out) (start : State) (out : Out) : Prop :=
  ∃ fuel, runFor body fuel start = some out

def Diverges (body : State → State ⊕ Out) (start : State) : Prop :=
  ∀ fuel, runFor body fuel start = none

/-- The states at the head of the passes of one run. -/
inductive Reaches (body : State → State ⊕ Out) (start : State) : State → Prop where
  | start : Reaches body start start
  | again {state next : State} : Reaches body start state →
      body state = .inl next → Reaches body start next

variable (body : State → State ⊕ Out)

theorem returns_leave (state : State) (out : Out) (left : body state = .inr out) :
    Returns body state out :=
  ⟨1, by simp [runFor, left]⟩

theorem returns_again (state next : State) (again : body state = .inl next) (out : Out) :
    Returns body state out ↔ Returns body next out := by
  constructor
  · rintro ⟨fuel, ran⟩
    cases fuel with
    | zero => simp [runFor] at ran
    | succ fuel => exact ⟨fuel, by simpa [runFor, again] using ran⟩
  · rintro ⟨fuel, ran⟩
    exact ⟨fuel + 1, by simpa [runFor, again] using ran⟩

theorem returns_unique (start : State) (first second : Out)
    (one : Returns body start first) (two : Returns body start second) : first = second := by
  obtain ⟨fuel, ran⟩ := one
  induction fuel generalizing start with
  | zero => simp [runFor] at ran
  | succ fuel ih =>
      cases pass : body start with
      | inl next =>
          exact ih next ((returns_again body start next pass second).mp two)
            (by simpa [runFor, pass] using ran)
      | inr out =>
          obtain ⟨other, ranTwo⟩ := two
          cases other with
          | zero => simp [runFor] at ranTwo
          | succ other =>
              simp only [runFor, pass, Option.some.injEq] at ran ranTwo
              exact ran.symm.trans ranTwo

theorem not_returns_of_diverges (start : State) (never : Diverges body start) (out : Out) :
    ¬ Returns body start out := by
  rintro ⟨fuel, ran⟩
  simp [never fuel] at ran

theorem reaches_trans (start middle last : State)
    (front : Reaches body start middle) (back : Reaches body middle last) :
    Reaches body start last := by
  induction back with
  | start => exact front
  | again _ pass ih => exact ih.again pass

theorem returns_of_reaches (start state : State) (out : Out)
    (front : Reaches body start state) (back : Returns body state out) :
    Returns body start out := by
  induction front with
  | start => exact back
  | again _ pass ih => exact ih ((returns_again body _ _ pass out).mpr back)

/-- A run that returns leaves the loop at one of the states it reaches. -/
theorem returns_leaves (start : State) (out : Out) (returned : Returns body start out) :
    ∃ state, Reaches body start state ∧ body state = .inr out := by
  obtain ⟨fuel, ran⟩ := returned
  -- on the fuel: either the first pass leaves or the rest of the run does
  induction fuel generalizing start with
  | zero => simp [runFor] at ran
  | succ fuel ih =>
      cases pass : body start with
      | inl next =>
          obtain ⟨state, reached, left⟩ := ih next (by simpa [runFor, pass] using ran)
          exact ⟨state, reaches_trans body start next state (.again .start pass) reached, left⟩
      | inr found =>
          have same : found = out := by simpa [runFor, pass] using ran
          exact ⟨start, .start, by rw [pass, same]⟩

/-- Invariant rule: what every pass keeps holds at the head of every pass. -/
theorem reaches_invariant (Inv : State → Prop) (start : State) (initial : Inv start)
    (kept : ∀ state next, Inv state → body state = .inl next → Inv next)
    (state : State) (reached : Reaches body start state) : Inv state := by
  induction reached with
  | start => exact initial
  | again _ pass ih => exact kept _ _ ih pass

/-- Divergence rule: an invariant under which no pass leaves the loop. -/
theorem diverges_of_invariant (Inv : State → Prop)
    (kept : ∀ state, Inv state → ∃ next, body state = .inl next ∧ Inv next)
    (start : State) (initial : Inv start) : Diverges body start := by
  intro fuel
  induction fuel generalizing start with
  | zero => rfl
  | succ fuel ih =>
      obtain ⟨next, pass, inv⟩ := kept start initial
      simpa [runFor, pass] using ih next inv

/-- Termination rule: under the invariant a pass either leaves the loop with an
outcome as wanted or falls through with a smaller measure. -/
theorem returns_of_measure (Inv : State → Prop) (Wanted : Out → Prop) (measure : State → Nat)
    (progress : ∀ state, Inv state →
      (∃ out, body state = .inr out ∧ Wanted out) ∨
      (∃ next, body state = .inl next ∧ Inv next ∧ measure next < measure state))
    (start : State) (initial : Inv start) : ∃ out, Returns body start out ∧ Wanted out := by
  induction size : measure start using Nat.strongRecOn generalizing start with
  | ind bound ih =>
      rcases progress start initial with ⟨out, left, wanted⟩ | ⟨next, pass, inv, smaller⟩
      · exact ⟨out, returns_leave body start out left, wanted⟩
      · obtain ⟨out, returned, wanted⟩ := ih (measure next) (size ▸ smaller) next inv rfl
        exact ⟨out, (returns_again body start next pass out).mpr returned, wanted⟩

end AirMonitor.Loop
