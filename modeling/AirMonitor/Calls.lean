import Mathlib.Data.List.Basic

/-!
A function that takes items off a stream until it returns, called again and
again, each call on what the one before it left. Where the outputs of a call
belong to the items it took, the places of the calls in the stream do not show.
-/

namespace AirMonitor.Calls

universe u v
variable {Item : Type u} {Out : Type v}

/-- Call number `index` on a stream: what it puts out and the stream it leaves,
`none` when the stream ends inside the call. A call that returns took an item. -/
structure Call (Item : Type u) (Out : Type v) where
  run : Nat → List Item → List Out × Option (List Item)
  takes : ∀ index items outs rest, run index items = (outs, some rest) →
    rest.length < items.length

def repeated (call : Call Item Out) (index : Nat) (items : List Item) : List Out :=
  match _ : call.run index items with
  | (outs, none) => outs
  | (outs, some rest) => outs ++ repeated call (index + 1) rest
termination_by items.length
decreasing_by exact call.takes index items outs rest ‹_›

/-- Every call puts out, of each item it takes, what `out` says of that item. -/
def Itemwise (call : Call Item Out) (out : Item → List Out) : Prop :=
  ∀ index items outs after, call.run index items = (outs, after) →
    ∃ taken, items = taken ++ after.getD [] ∧ outs = taken.flatMap out

theorem repeated_itemwise (call : Call Item Out) (out : Item → List Out)
    (itemwise : Itemwise call out) (index : Nat) (items : List Item) :
    repeated call index items = items.flatMap out := by
  induction size : items.length using Nat.strongRecOn generalizing index items with
  | ind bound ih =>
      rw [repeated]
      split
      · rename_i outs ran
        obtain ⟨taken, rfl, rfl⟩ := itemwise index items outs none ran
        simp
      · rename_i outs rest ran
        obtain ⟨taken, split, same⟩ := itemwise index items outs (some rest) ran
        have shorter : rest.length < bound := size ▸ call.takes index items outs rest ran
        rw [ih rest.length shorter (index + 1) rest rfl, same, split, List.flatMap_append]
        rfl

end AirMonitor.Calls
