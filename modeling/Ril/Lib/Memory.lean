import Mathlib.Logic.Function.Basic
import Mathlib.Tactic.Common

/-! A memory of cells with addresses: what stands in a range of it, and what a write to a range does. -/

namespace Ril.Lib

variable {α : Type}

/-- The cells from an address on -/
def cellsAt (memory : ℕ → α) (address : ℕ) : ℕ → List α
  | 0 => []
  | count + 1 => memory address :: cellsAt memory (address + 1) count

def storeAt (memory : ℕ → α) (address : ℕ) : List α → ℕ → α
  | [] => memory
  | a :: as => Function.update (storeAt memory (address + 1) as) address a

variable {memory : ℕ → α} {address : ℕ}

@[simp] lemma cells_at_length (memory : ℕ → α) (address count : ℕ) :
    (cellsAt memory address count).length = count := by
  induction count generalizing address with
  | zero => rfl
  | succ n ih => simp only [cellsAt, List.length_cons, ih]

lemma cells_at_add (memory : ℕ → α) (address m n : ℕ) :
    cellsAt memory address (m + n) = cellsAt memory address m ++ cellsAt memory (address + m) n := by
  induction m generalizing address with
  | zero => simp [cellsAt]
  | succ m ih =>
    rw [Nat.add_right_comm, cellsAt, ih, cellsAt, List.cons_append]
    simp only [Nat.add_assoc, Nat.add_comm 1 m]

lemma cells_at_take {m n : ℕ} (h : m ≤ n) : (cellsAt memory address n).take m = cellsAt memory address m := by
  obtain ⟨k, rfl⟩ := Nat.exists_eq_add_of_le h
  rw [cells_at_add]
  simp

lemma cells_at_drop {m n : ℕ} (h : m ≤ n) :
    (cellsAt memory address n).drop m = cellsAt memory (address + m) (n - m) := by
  obtain ⟨k, rfl⟩ := Nat.exists_eq_add_of_le h
  rw [cells_at_add, Nat.add_sub_cancel_left]
  simp

lemma cells_at_get {n i : ℕ} (h : i < n) : (cellsAt memory address n)[i]? = some (memory (address + i)) := by
  induction n generalizing address i with
  | zero => exact absurd h (Nat.not_lt_zero i)
  | succ n ih =>
    cases i with
    | zero => rfl
    | succ i =>
      rw [cellsAt, List.getElem?_cons_succ, ih (Nat.lt_of_succ_lt_succ h), Nat.add_right_comm, Nat.add_assoc]

lemma cells_at_congr {memory' : ℕ → α} {n : ℕ} (h : ∀ a, address ≤ a → a < address + n → memory a = memory' a) :
    cellsAt memory address n = cellsAt memory' address n := by
  induction n generalizing address with
  | zero => rfl
  | succ n ih =>
    rw [cellsAt, cellsAt, h address (Nat.le_refl _) (by omega), ih fun a h1 h2 => h a (by omega) (by omega)]

lemma store_at_outside {as : List α} {a : ℕ} (h : a < address ∨ address + as.length ≤ a) :
    storeAt memory address as a = memory a := by
  induction as generalizing address with
  | nil => rfl
  | cons b bs ih =>
    rw [List.length_cons] at h
    rw [storeAt, Function.update_of_ne (by omega), ih (by omega)]

lemma cells_at_store (memory : ℕ → α) (address : ℕ) (as : List α) :
    cellsAt (storeAt memory address as) address as.length = as := by
  induction as generalizing address with
  | nil => rfl
  | cons a as ih =>
    have h : cellsAt (storeAt memory address (a :: as)) (address + 1) as.length =
        cellsAt (storeAt memory (address + 1) as) (address + 1) as.length :=
      cells_at_congr fun b hb _ => Function.update_of_ne (by omega) _ _
    rw [List.length_cons, cellsAt, h, ih, storeAt, Function.update_self]

lemma cells_at_store_outside {as : List α} {start n : ℕ} (h : start + n ≤ address ∨ address + as.length ≤ start) :
    cellsAt (storeAt memory address as) start n = cellsAt memory start n :=
  cells_at_congr fun _ _ _ => store_at_outside (by omega)

/-! ### Copies into allocated blocks -/

structure BlockCopy where
  capacity : ℕ
  position : ℕ
  length : ℕ
deriving DecidableEq, Repr

def BlockCopy.Within (c : BlockCopy) : Prop := c.position + c.length ≤ c.capacity

instance (c : BlockCopy) : Decidable c.Within := inferInstanceAs (Decidable (_ ≤ _))

end Ril.Lib
