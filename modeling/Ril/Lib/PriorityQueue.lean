import Mathlib.Data.List.MinMax

/-! A priority queue as the list of what is in it. -/

namespace Ril.Lib

variable {α : Type*}

/-- Which of the elements with the least key is at the top is not said. -/
structure PriorityQueue (α : Type*) where
  top : (α → ℤ) → List α → Option α
  mem_of_top : ∀ {key l a}, top key l = some a → a ∈ l
  le_of_top : ∀ {key l a b}, top key l = some a → b ∈ l → key a ≤ key b
  nil_of_top : ∀ {key l}, top key l = none → l = []

namespace PriorityQueue

def first (α : Type*) : PriorityQueue α where
  top key l := @List.argmin α ℤ Int.instLinearOrder.toPreorder inferInstance key l
  mem_of_top h := List.argmin_mem h
  le_of_top h hb := List.le_of_mem_argmin hb h
  nil_of_top h := List.argmin_eq_none.mp h

variable [DecidableEq α] (pq : PriorityQueue α) (key : α → ℤ) (now : ℤ)

/-- What is due is popped, at most so many times: in the order of popping, and what is left. -/
def popDue : ℕ → List α → List α × List α
  | 0, l => ([], l)
  | n + 1, l => match pq.top key l with
    | none => ([], l)
    | some a =>
      if key a ≤ now then
        let r := popDue n (l.erase a)
        (a :: r.1, r.2)
      else ([], l)

variable {key now} {n : ℕ} {l : List α}

lemma pop_due_perm (key : α → ℤ) (now : ℤ) (n : ℕ) (l : List α) :
    ((pq.popDue key now n l).1 ++ (pq.popDue key now n l).2).Perm l := by
  induction n generalizing l with
  | zero => exact .refl _
  | succ n ih =>
    rw [popDue]
    split
    · exact .refl _
    · rename_i a ha
      split
      · exact ((ih _).cons a).trans (List.perm_cons_erase (pq.mem_of_top ha)).symm
      · exact .refl _

lemma mem_of_pop_due {a : α} (h : a ∈ (pq.popDue key now n l).1) : a ∈ l :=
  (pq.pop_due_perm key now n l).subset (List.mem_append_left _ h)

lemma le_of_pop_due {a : α} (h : a ∈ (pq.popDue key now n l).1) : key a ≤ now := by
  induction n generalizing l with
  | zero => cases h
  | succ n ih =>
    rw [popDue] at h
    split at h
    · cases h
    · split at h
      · rename_i hdue
        rcases List.mem_cons.mp h with rfl | h
        · exact hdue
        · exact ih h
      · cases h

lemma lt_of_not_due {a : α} (hn : l.length ≤ n) (h : a ∈ (pq.popDue key now n l).2) : now < key a := by
  induction n generalizing l with
  | zero =>
    obtain rfl := List.length_eq_zero_iff.mp (Nat.le_zero.mp hn)
    cases h
  | succ n ih =>
    rw [popDue] at h
    split at h
    · rename_i hnone
      rw [pq.nil_of_top hnone] at h
      cases h
    · rename_i b hb
      split at h
      · refine ih ?_ h
        rw [List.length_erase_of_mem (pq.mem_of_top hb)]
        omega
      · rename_i hdue
        exact (not_le.mp hdue).trans_le (pq.le_of_top hb h)

lemma pop_due_sorted (key : α → ℤ) (now : ℤ) (n : ℕ) (l : List α) :
    (pq.popDue key now n l).1.Pairwise fun a b => key a ≤ key b := by
  induction n generalizing l with
  | zero => exact .nil
  | succ n ih =>
    rw [popDue]
    split
    · exact .nil
    · rename_i a ha
      split
      · refine .cons (fun b hb => pq.le_of_top ha ?_) (ih _)
        exact List.mem_of_mem_erase (pq.mem_of_pop_due hb)
      · exact .nil

end PriorityQueue

end Ril.Lib
