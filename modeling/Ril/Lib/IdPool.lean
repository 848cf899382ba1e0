import Mathlib.Data.List.Nodup
import Mathlib.Data.List.Range
import Mathlib.Data.Nat.ModEq
import Mathlib.Logic.Function.Iterate
import Mathlib.Order.Bounds.Defs

/-! A counter that goes through 1, ..., n again and again. -/

namespace Ril.Lib

def cyclicNext (n x : ℕ) : ℕ := x % n + 1

lemma cyclicNext_iterate {n x : ℕ} (hx : 1 ≤ x) (hn : x ≤ n) (k : ℕ) :
    (cyclicNext n)^[k] x = (x - 1 + k) % n + 1 := by
  induction k with
  | zero =>
    rw [Function.iterate_zero_apply, Nat.add_zero, Nat.mod_eq_of_lt (by omega)]
    omega
  | succ k ih =>
    rw [Function.iterate_succ_apply', ih, cyclicNext, ← Nat.add_assoc, Nat.mod_add_mod]

/-- Two values that come to the same one were equal if and only if the distances agree up to
full rounds. -/
lemma cyclicNext_eq_iff {n x y j k : ℕ} (hx : 1 ≤ x) (hxn : x ≤ n) (hy : 1 ≤ y) (hyn : y ≤ n)
    (h : (cyclicNext n)^[j] x = (cyclicNext n)^[k] y) : x = y ↔ j ≡ k [MOD n] := by
  rw [cyclicNext_iterate hx hxn, cyclicNext_iterate hy hyn] at h
  have hmod : x - 1 + j ≡ y - 1 + k [MOD n] := Nat.succ_injective h
  constructor
  · rintro rfl
    exact Nat.ModEq.add_left_cancel' (x - 1) hmod
  · intro hjk
    have h1 : x - 1 ≡ y - 1 [MOD n] := Nat.ModEq.add_right_cancel hjk hmod
    have h2 : x - 1 = y - 1 := Nat.ModEq.eq_of_lt_of_lt h1 (by omega) (by omega)
    omega

end Ril.Lib

/-! Numbers from 1 on that are handed out, the least free one first. -/

namespace Ril.Lib

variable {count n : ℕ} {used used' : List ℕ}

def leastFree (count : ℕ) (used : List ℕ) : Option ℕ :=
  ((List.range count).map (· + 1)).find? fun n => n ∉ used

lemma least_free_some_iff : leastFree count used = some n ↔ IsLeast {n | 1 ≤ n ∧ n ≤ count ∧ n ∉ used} n := by
  simp only [leastFree, List.find?_map, Option.map_eq_some_iff, List.find?_range_eq_some, Function.comp_apply,
    decide_eq_true_eq, Bool.not_eq_true', decide_eq_false_iff_not, not_not, List.mem_range]
  constructor
  · rintro ⟨i, ⟨hi, hlt, hbelow⟩, rfl⟩
    refine ⟨⟨Nat.le_add_left 1 i, hlt, hi⟩, ?_⟩
    rintro m ⟨h1, -, hfree⟩
    by_contra hlow
    have hlt : m - 1 < i := by
      simp only [not_le] at hlow
      omega
    have hmem := hbelow (m - 1) hlt
    rw [Nat.sub_add_cancel h1] at hmem
    exact hfree hmem
  · rintro ⟨⟨h1, hle, hn⟩, hleast⟩
    refine ⟨n - 1, ⟨?_, by omega, fun j hj => ?_⟩, Nat.sub_add_cancel h1⟩
    · rwa [Nat.sub_add_cancel h1]
    · by_contra hfree
      have hl := hleast ⟨by omega, by omega, hfree⟩
      omega

lemma least_free_none_iff : leastFree count used = none ↔ ∀ n, 1 ≤ n → n ≤ count → n ∈ used := by
  simp only [leastFree, List.find?_eq_none, List.mem_map, List.mem_range, decide_eq_true_eq, not_not]
  constructor
  · intro h n h1 hle
    exact h n ⟨n - 1, by omega, by omega⟩
  · rintro h n ⟨i, hi, rfl⟩
    exact h (i + 1) (by omega) (by omega)

/-- What is used is within the range, and nothing is used twice. -/
structure Pooled (count : ℕ) (used : List ℕ) : Prop where
  nodup : used.Nodup
  range : ∀ n ∈ used, 1 ≤ n ∧ n ≤ count

namespace Pooled

lemma nil : Pooled count [] := ⟨List.nodup_nil, by simp⟩

lemma take (h : Pooled count used) (hn : leastFree count used = some n) : Pooled count (used ++ [n]) := by
  obtain ⟨⟨h1, hle, hfree⟩, -⟩ := least_free_some_iff.mp hn
  refine ⟨List.nodup_append.mpr ⟨h.nodup, by simp, ?_⟩, fun m hm => ?_⟩
  · intro a ha b hb hab
    obtain rfl : b = n := by simpa using hb
    exact hfree (hab ▸ ha)
  · rcases List.mem_append.mp hm with hm | hm
    · exact h.range m hm
    · obtain rfl : m = n := by simpa using hm
      exact ⟨h1, hle⟩

lemma sublist (h : Pooled count used) (hs : used'.Sublist used) : Pooled count used' :=
  ⟨h.nodup.sublist hs, fun n hn => h.range n (hs.subset hn)⟩

end Pooled

end Ril.Lib
