import Mathlib.Data.List.Basic
import Mathlib.Tactic.Common

/-! Blocks of a fixed length that are filled by copies at a position, which must not reach over the end. -/

namespace Ril.Lib

variable {α : Type}

/-- `none` where the copy reaches over the end of the block -/
def copyInto (block : List α) (position : ℕ) (data : List α) : Option (List α) :=
  if position + data.length ≤ block.length then
    some (block.take position ++ data ++ block.drop (position + data.length))
  else none

/-- Copies one behind the other, with a pointer that is advanced by the length of each -/
def copyAll (block : List α) (position : ℕ) : List (List α) → Option (List α)
  | [] => some block
  | data :: rest => (copyInto block position data).bind fun block => copyAll block (position + data.length) rest

variable {block data : List α} {position : ℕ}

lemma copy_into_frontier (done room : List α) (data : List α) : copyInto (done ++ room) done.length data =
    if data.length ≤ room.length then some (done ++ data ++ room.drop data.length) else none := by
  rw [copyInto, List.length_append]
  by_cases h : data.length ≤ room.length
  · rw [if_pos (by omega), if_pos h, List.take_left, List.drop_length_add_append]
  · rw [if_neg (by omega), if_neg h]

/-- What fits is written as it stands, and what is behind it stays. -/
lemma copy_all_frontier (done room : List α) (parts : List (List α)) : copyAll (done ++ room) done.length parts =
    if parts.flatten.length ≤ room.length then some (done ++ parts.flatten ++ room.drop parts.flatten.length)
    else none := by
  induction parts generalizing done room with
  | nil => simp [copyAll]
  | cons data rest ih =>
    rw [copyAll, copy_into_frontier, List.flatten_cons, List.length_append]
    by_cases h : data.length ≤ room.length
    · have hrest := ih (done ++ data) (room.drop data.length)
      rw [List.length_append, List.length_drop] at hrest
      rw [if_pos h, Option.bind_some, hrest]
      by_cases hr : data.length + rest.flatten.length ≤ room.length
      · rw [if_pos (by omega), if_pos hr, List.drop_drop]
        simp only [List.append_assoc]
      · rw [if_neg (by omega), if_neg hr]
    · rw [if_neg h, if_neg (by omega), Option.bind_none]

lemma copy_all_block (block : List α) (parts : List (List α)) : copyAll block 0 parts =
    if parts.flatten.length ≤ block.length then some (parts.flatten ++ block.drop parts.flatten.length) else none :=
  copy_all_frontier [] block parts

lemma copy_all_some {parts : List (List α)} (h : block.length = parts.flatten.length) :
    copyAll block 0 parts = some parts.flatten := by
  rw [copy_all_block, if_pos (Nat.le_of_eq h.symm), ← h, List.drop_length, List.append_nil]

end Ril.Lib

/-! Buffers that are written at a cursor: what is at the cursor is overwritten, and the buffer grows at its end. -/

namespace Ril.Lib

variable {α : Type}

structure CursorBuffer (α : Type) where
  data : List α
  position : ℕ
deriving DecidableEq

namespace CursorBuffer

def empty : CursorBuffer α := ⟨[], 0⟩

def write (b : CursorBuffer α) (items : List α) : CursorBuffer α :=
  ⟨b.data.take b.position ++ items ++ b.data.drop (b.position + items.length), b.position + items.length⟩

/-- Moves the cursor, and leaves what is behind it. -/
def setPosition (b : CursorBuffer α) (position : ℕ) : CursorBuffer α := { b with position := position }

variable {data items rest : List α}

lemma write_at_end (data items : List α) :
    write ⟨data, data.length⟩ items = ⟨data ++ items, (data ++ items).length⟩ := by
  rw [write, List.take_length, List.drop_eq_nil_of_le (by simp only; omega), List.append_nil, List.length_append]

lemma foldl_write_at_end (data : List α) (writes : List (List α)) : writes.foldl write ⟨data, data.length⟩ =
    ⟨data ++ writes.flatten, (data ++ writes.flatten).length⟩ := by
  induction writes generalizing data with
  | nil => rw [List.foldl_nil, List.flatten_nil, List.append_nil]
  | cons items writes ih => rw [List.foldl_cons, write_at_end, ih, List.flatten_cons, List.append_assoc]

lemma write_in_place {old : List α} (position : ℕ) (h : items.length = old.length) :
    (((⟨data ++ old ++ rest, position⟩ : CursorBuffer α).setPosition data.length).write items).data =
      data ++ items ++ rest := by
  rw [setPosition, write]
  dsimp only
  rw [h, List.append_assoc data, List.take_left, List.drop_length_add_append, List.drop_left]

end CursorBuffer

end Ril.Lib
