import AirMonitor.Calls
import AirMonitor.Co2

/-!
The receive loop of `co2_task`. It stores and goes on where `co2_read` returns,
keeps its one buffer for good and leaves the requests to `co2_tx_task`. The
buffer shows in neither function's values.
-/

namespace AirMonitor.Co2
open Calls

theorem read_shortens (buffer : Buffer) (reads : List UartRead) (value : Int)
    (rest : List UartRead) (returned : co2Read buffer reads = some (value, rest)) :
    rest.length < reads.length := by
  obtain ⟨before, read, rfl, _⟩ := (read_some_iff buffer reads value rest).mp returned
  rw [List.length_append, List.length_cons]
  omega

/-- `co2_read` as a call: it puts out the value it returns, and call number
`index` finds whatever `malloc` hands it in `fresh index`. -/
def co2ReadCall (fresh : Nat → Buffer) : Calls.Call UartRead Int where
  run index reads :=
    match co2Read (fresh index) reads with
    | some (value, rest) => ([value], some rest)
    | none => ([], none)
  takes := by
    intro index reads outs rest ran
    cases returned : co2Read (fresh index) reads with
    | none => simp [returned] at ran
    | some result =>
        obtain ⟨_, rfl⟩ : [result.1] = outs ∧ result.2 = rest := by simpa [returned] using ran
        exact read_shortens (fresh index) reads result.1 result.2 returned

/-- Both loops leave the same buffer behind a read and find the same value in it. -/
theorem task_pass (buffer : Buffer) (read : UartRead) :
    co2TaskPass buffer read =
      ((co2ReadPass buffer read).buffer, (co2ReadPass buffer read).value) := by
  cases read with
  | error => rfl
  | timeout => rfl
  | chunk bytes =>
      dsimp only [co2TaskPass, co2ReadPass]
      split
      · split <;> rfl
      · rfl

theorem task_accepted (buffer : Buffer) (reads : List UartRead) :
    co2Task buffer reads = reads.flatMap fun read => (accepted read).toList := by
  -- the buffer a pass leaves is the next one's start, so it stays arbitrary
  induction reads generalizing buffer with
  | nil => rfl
  | cons read rest ih =>
      rw [co2Task, task_pass, pass_value, ih]
      rfl

theorem refused_outs (reads : List UartRead) (refused : ∀ read ∈ reads, accepted read = none) :
    (reads.flatMap fun read => (accepted read).toList) = [] := by
  rw [List.flatMap_eq_nil_iff]
  intro read member
  rw [refused read member]
  rfl

theorem read_call_itemwise (fresh : Nat → Buffer) :
    Itemwise (co2ReadCall fresh) fun read => (accepted read).toList := by
  intro index reads outs after ran
  cases returned : co2Read (fresh index) reads with
  | none =>
      obtain ⟨rfl, rfl⟩ : [] = outs ∧ none = after := by simpa [co2ReadCall, returned] using ran
      have refused := (read_none_iff (fresh index) reads).mp returned
      exact ⟨reads, by simp, (refused_outs reads refused).symm⟩
  | some result =>
      obtain ⟨value, rest⟩ := result
      obtain ⟨rfl, rfl⟩ : [value] = outs ∧ some rest = after := by
        simpa [co2ReadCall, returned] using ran
      obtain ⟨before, read, split, refused, taken⟩ :=
        (read_some_iff (fresh index) reads value rest).mp returned
      refine ⟨before ++ [read], by simp [split], ?_⟩
      rw [List.flatMap_append, refused_outs before refused]
      simp [taken]

theorem receive_paths_agree (buffer : Buffer) (fresh : Nat → Buffer) (reads : List UartRead) :
    co2Task buffer reads = repeated (co2ReadCall fresh) 0 reads := by
  rw [task_accepted, repeated_itemwise (co2ReadCall fresh) _ (read_call_itemwise fresh)]

end AirMonitor.Co2
