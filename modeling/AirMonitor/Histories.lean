import Mathlib.Logic.Function.Basic

/-!
Cells whose writes can go unacknowledged: carried out or not, the writer is not told.
What a cell can hold is a matter of the history of writes and of what was seen since.
-/

namespace AirMonitor.Histories

variable {Key Value : Type} [DecidableEq Key]

inductive Event (Key Value : Type) where
  | wrote (key : Key) (value : Value) (acked : Bool)
  | saw (key : Key) (value : Value)
  deriving DecidableEq

/-- What a cell can hold after a history, newest first. -/
def Possible (initial : Key → Value) : List (Event Key Value) → Key → Value → Prop
  | [], key, value => value = initial key
  | .wrote named written acked :: older, key, value =>
      if key = named then value = written ∨ acked = false ∧ Possible initial older key value
      else Possible initial older key value
  | .saw named seen :: older, key, value =>
      (key = named → value = seen) ∧ Possible initial older key value

/-- Everything seen was possible when it was seen. -/
def Sound (initial : Key → Value) : List (Event Key Value) → Prop
  | [] => True
  | .wrote _ _ _ :: older => Sound initial older
  | .saw key seen :: older => Possible initial older key seen ∧ Sound initial older

/-- The cells are as the history says. -/
structure Explains (initial : Key → Value) (history : List (Event Key Value))
    (cells : Key → Value) : Prop where
  sound : Sound initial history
  possible : ∀ key, Possible initial history key (cells key)

variable (initial : Key → Value) (history : List (Event Key Value)) (cells : Key → Value)

theorem explains_saw (explains : Explains initial history cells) (key : Key) :
    Explains initial (.saw key (cells key) :: history) cells := by
  constructor
  · exact ⟨explains.possible key, explains.sound⟩
  · intro other
    exact ⟨fun same => by rw [same], explains.possible other⟩

theorem explains_written (explains : Explains initial history cells) (key : Key) (value : Value)
    (acked : Bool) :
    Explains initial (.wrote key value acked :: history) (Function.update cells key value) := by
  constructor
  · exact explains.sound
  · intro other
    by_cases same : other = key
    · rw [Possible, if_pos same, same, Function.update_self]
      exact .inl rfl
    · rw [Possible, if_neg same, Function.update_of_ne same]
      exact explains.possible other

theorem explains_lost (explains : Explains initial history cells) (key : Key) (value : Value) :
    Explains initial (.wrote key value false :: history) cells := by
  constructor
  · exact explains.sound
  · intro other
    rw [Possible]
    split
    · exact .inr ⟨rfl, explains.possible other⟩
    · exact explains.possible other

def Untouched (key : Key) : List (Event Key Value) → Prop
  | [] => True
  | .wrote named _ _ :: older => named ≠ key ∧ Untouched key older
  | .saw _ _ :: older => Untouched key older

/-- After an acknowledged write a cell holds its value until the next write. -/
theorem possible_last (key : Key) (written value : Value) (newer : List (Event Key Value))
    (untouched : Untouched key newer)
    (possible : Possible initial (newer ++ .wrote key written true :: history) key value) :
    value = written := by
  induction newer with
  | nil =>
      simp only [List.nil_append, Possible, if_true] at possible
      cases possible with
      | inl same => exact same
      | inr lost => exact Bool.noConfusion lost.1
  | cons event rest ih =>
      cases event with
      | wrote named other acked =>
          rw [List.cons_append, Possible, if_neg (Ne.symm untouched.1)] at possible
          exact ih untouched.2 possible
      | saw named seen => exact ih untouched possible.2

theorem sound_last (key : Key) (written value : Value) (newer : List (Event Key Value))
    (untouched : Untouched key newer)
    (sound : Sound initial (newer ++ .wrote key written true :: history))
    (told : .saw key value ∈ newer) : value = written := by
  induction newer with
  | nil => exact absurd told List.not_mem_nil
  | cons event rest ih =>
      cases event with
      | wrote named other acked =>
          cases told with
          | tail _ later => exact ih untouched.2 sound later
      | saw named seen =>
          cases told with
          | head _ => exact possible_last initial history key written value rest untouched sound.1
          | tail _ later => exact ih untouched sound.2 later

end AirMonitor.Histories
