import Mathlib.Data.List.Basic

/-!
Windows of a stream made of blocks of one size. A window of that size either is a
block or lies across two neighbours, depending only on where it starts.
-/

namespace AirMonitor.Blocks

universe u
variable {Item : Type u}

def Uniform (size : Nat) (blocks : List (List Item)) : Prop :=
  ∀ block ∈ blocks, block.length = size

def window (stream : List Item) (offset size : Nat) : List Item := (stream.drop offset).take size

theorem uniform_tail (size : Nat) (block : List Item) (rest : List (List Item))
    (uniform : Uniform size (block :: rest)) : block.length = size ∧ Uniform size rest :=
  ⟨uniform block List.mem_cons_self, fun other member => uniform other (List.mem_cons_of_mem _ member)⟩

theorem flatten_length (size : Nat) (blocks : List (List Item)) (uniform : Uniform size blocks) :
    blocks.flatten.length = size * blocks.length := by
  induction blocks with
  | nil => rfl
  | cons block rest ih =>
      obtain ⟨head, tail⟩ := uniform_tail size block rest uniform
      rw [List.flatten_cons, List.length_append, head, ih tail, List.length_cons]
      rw [Nat.mul_succ, Nat.add_comm]

theorem drop_blocks (size index : Nat) (blocks : List (List Item)) (uniform : Uniform size blocks) :
    blocks.flatten.drop (size * index) = (blocks.drop index).flatten := by
  induction blocks generalizing index with
  | nil => simp
  | cons block rest ih =>
      obtain ⟨head, tail⟩ := uniform_tail size block rest uniform
      cases index with
      | zero => rfl
      | succ index =>
          have skip : size * (index + 1) = block.length + size * index := by
            rw [head, Nat.mul_succ, Nat.add_comm]
          rw [skip, List.flatten_cons, List.drop_append, Nat.add_sub_cancel_left, ih index tail]
          simp

theorem window_exact (stream : List Item) (offset size : Nat) :
    window stream offset (window stream offset size).length = window stream offset size := by
  rw [window, window, List.length_take, List.take_eq_take_iff, Nat.min_assoc, Nat.min_self]

theorem window_aligned (size index : Nat) (blocks : List (List Item)) (uniform : Uniform size blocks)
    (block : List Item) (found : blocks[index]? = some block) :
    window blocks.flatten (size * index) size = block := by
  obtain ⟨inside, rfl⟩ := List.getElem?_eq_some_iff.mp found
  have length := uniform _ (List.getElem_mem inside)
  rw [window, drop_blocks size index blocks uniform, List.drop_eq_getElem_cons inside,
    List.flatten_cons, List.take_append_of_le_length (by omega), List.take_of_length_le (by omega)]

theorem window_across (size index shift : Nat) (blocks : List (List Item))
    (uniform : Uniform size blocks) (within : shift ≤ size) (left right : List Item)
    (first : blocks[index]? = some left) (second : blocks[index + 1]? = some right) :
    window blocks.flatten (size * index + shift) size = left.drop shift ++ right.take shift := by
  obtain ⟨inside, rfl⟩ := List.getElem?_eq_some_iff.mp first
  obtain ⟨after, rfl⟩ := List.getElem?_eq_some_iff.mp second
  have lengthLeft := uniform _ (List.getElem_mem inside)
  have lengthRight := uniform _ (List.getElem_mem after)
  rw [window, ← List.drop_drop, drop_blocks size index blocks uniform,
    List.drop_eq_getElem_cons inside, List.drop_eq_getElem_cons after, List.flatten_cons,
    List.flatten_cons, List.drop_append_of_le_length (by omega), List.take_append]
  have rest : size - (blocks[index].drop shift).length = shift := by
    rw [List.length_drop]
    omega
  rw [rest, List.take_of_length_le (by rw [List.length_drop]; omega),
    List.take_append_of_le_length (by omega)]

/-- A whole window of the stream starts in a block; unless it starts at its head,
there is a next block for it to end in. -/
theorem window_blocks (size offset : Nat) (positive : 0 < size) (blocks : List (List Item))
    (uniform : Uniform size blocks) (whole : (window blocks.flatten offset size).length = size) :
    (∃ block, blocks[offset / size]? = some block) ∧
      (offset % size ≠ 0 → ∃ block, blocks[offset / size + 1]? = some block) := by
  have total := flatten_length size blocks uniform
  have room : offset + size ≤ size * blocks.length := by
    rw [window, List.length_take, List.length_drop, total] at whole
    omega
  have split := Nat.div_add_mod offset size
  have part := Nat.mod_lt offset positive
  constructor
  · have inside : offset / size < blocks.length := by
      by_contra outside
      have beyond : size * blocks.length ≤ size * (offset / size) :=
        Nat.mul_le_mul_left size (Nat.le_of_not_lt outside)
      omega
    exact ⟨_, List.getElem?_eq_getElem inside⟩
  · intro shifted
    have inside : offset / size + 1 < blocks.length := by
      by_contra outside
      have beyond : size * blocks.length ≤ size * (offset / size + 1) :=
        Nat.mul_le_mul_left size (Nat.le_of_not_lt outside)
      rw [Nat.mul_succ] at beyond
      omega
    exact ⟨_, List.getElem?_eq_getElem inside⟩

end AirMonitor.Blocks
