import Mathlib.Data.Option.Basic

/-! A list whose elements are changed or removed one after the other, up to the first that is refused. -/

namespace Ril.Lib

variable {α : Type*} {visit : α → Option (Option α)} {a : α} {b : Option α} {l : List α}

/-- What becomes of the list, and whether the sweep came to its end. `visit a` is `none` where `a` is refused, and
`some none` where it goes. -/
def sweep (visit : α → Option (Option α)) : List α → List α × Bool
  | [] => ([], true)
  | a :: l =>
    match visit a with
    | none => (a :: l, false)
    | some b => (b.toList ++ (sweep visit l).1, (sweep visit l).2)

lemma sweep_refused (h : visit a = none) : sweep visit (a :: l) = (a :: l, false) := by simp [sweep, h]

lemma sweep_visited (h : visit a = some b) :
    sweep visit (a :: l) = (b.toList ++ (sweep visit l).1, (sweep visit l).2) := by simp [sweep, h]

lemma sweep_length : (sweep visit l).1.length ≤ l.length := by
  induction l with
  | nil => exact Nat.le_refl 0
  | cons a l ih =>
    cases h : visit a with
    | none => simp [sweep_refused h]
    | some b =>
      have hb : b.toList.length ≤ 1 := Option.length_toList_le
      rw [sweep_visited h, List.length_append, List.length_cons]
      omega

lemma sweep_finished : (sweep visit l).2 = true ↔ ∀ a ∈ l, (visit a).isSome := by
  induction l with
  | nil => simp [sweep]
  | cons a l ih =>
    cases h : visit a with
    | none => simp [sweep_refused h, h]
    | some b => simp [sweep_visited h, h, ih]

/-- An element that is left as it is changes nothing. -/
lemma sweep_kept (h : visit a = some (some a)) : (sweep visit (a :: l)).1 = a :: l ↔ (sweep visit l).1 = l := by
  rw [sweep_visited h]
  simp

lemma sweep_changed (h : visit a = some b) (hb : b ≠ some a) : (sweep visit (a :: l)).1 ≠ a :: l := by
  rw [sweep_visited h]
  cases b with
  | none =>
    intro he
    have hlen : (sweep visit l).1.length ≤ l.length := sweep_length
    have hcons : (sweep visit l).1.length = l.length + 1 := by simpa using congrArg List.length he
    omega
  | some c =>
    intro he
    exact hb (congrArg some (List.cons.inj he).1)

/-- A sweep that fails leaves the list alone exactly if nothing is refused at all, or the first element that would not
be left as it is. -/
theorem sweep_all_or_nothing [DecidableEq α] :
    ((sweep visit l).2 = false → (sweep visit l).1 = l) ↔
      (∀ a ∈ l, (visit a).isSome) ∨ ∀ a ∈ (l.filter fun a => visit a ≠ some (some a)).head?, visit a = none := by
  induction l with
  | nil => simp [sweep]
  | cons a l ih =>
    cases h : visit a with
    | none => simp [sweep_refused h, h]
    | some b =>
      by_cases hb : b = some a
      · subst hb
        rw [sweep_kept h, sweep_visited h, ih]
        simp [h]
      · have hc : (sweep visit (a :: l)).1 ≠ a :: l := sweep_changed h hb
        have hf : (sweep visit (a :: l)).2 = false ↔ ¬ ∀ c ∈ a :: l, (visit c).isSome := by
          rw [← sweep_finished, Bool.not_eq_true]
        have hhead : ((a :: l).filter fun a => visit a ≠ some (some a)).head? = some a := by simp [h, hb]
        simp only [imp_iff_not hc, hf, not_not, hhead, Option.mem_some_iff, forall_eq', h, reduceCtorEq, or_false]

end Ril.Lib
