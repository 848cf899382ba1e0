import Mathlib.Data.List.ReduceOption

/-! Tables of slots, each empty or with an entry. -/

namespace Ril.Lib

variable {α : Type*} {t : List (Option α)} {a b : α} {o : Option α} {i j : ℕ}

def firstFree (t : List (Option α)) : Option ℕ := t.findIdx? Option.isNone

lemma first_free_some (h : firstFree t = some i) : t[i]? = some none := by
  obtain ⟨hi, hn, -⟩ := List.findIdx?_eq_some_iff_getElem.mp h
  rw [List.getElem?_eq_getElem hi, Option.isNone_iff_eq_none.mp hn]

lemma entries_length_of_full (h : firstFree t = none) : t.reduceOption.length = t.length := by
  have hs : ∀ a ∈ t, a.isNone = false := List.findIdx?_eq_none_iff.mp h
  rw [List.reduceOption_length_eq_iff]
  intro a ha
  simpa [Option.isNone_eq_false_iff] using hs a ha

lemma exists_free (h : t.reduceOption.length < t.length) : ∃ i, firstFree t = some i := by
  cases hf : firstFree t with
  | some i => exact ⟨i, rfl⟩
  | none => exact absurd (entries_length_of_full hf) (Nat.ne_of_lt h)

lemma entries_fill (h : t[i]? = some none) : (t.set i (some a)).reduceOption.Perm (a :: t.reduceOption) := by
  induction t generalizing i with
  | nil => simp at h
  | cons o t ih =>
    cases i with
    | zero =>
      obtain rfl : o = none := by simpa using h
      simp
    | succ i =>
      have hp : (t.set i (some a)).reduceOption.Perm (a :: t.reduceOption) := ih (by simpa using h)
      cases o with
      | none => simpa using hp
      | some b => simpa using (hp.cons b).trans (.swap a b _)

lemma entries_clear (h : t[i]? = some (some a)) : t.reduceOption.Perm (a :: (t.set i none).reduceOption) := by
  have hi : i < t.length := (List.getElem?_eq_some_iff.mp h).1
  have hc : (t.set i none)[i]? = some none := by simp [hi]
  have hs : (t.set i none).set i (some a) = t := by
    obtain ⟨hi, hget⟩ := List.getElem?_eq_some_iff.mp h
    rw [List.set_set, ← hget, List.set_getElem_self]
  simpa [hs] using entries_fill hc (a := a)

lemma entries_split (i : ℕ) : t.reduceOption = (t.take i).reduceOption ++ (t.drop i).reduceOption := by
  rw [← List.reduceOption_append, List.take_append_drop]

lemma entries_take_succ (h : t[i]? = some o) :
    (t.take (i + 1)).reduceOption = (t.take i).reduceOption ++ o.toList := by
  rw [List.take_add_one, h, List.reduceOption_append]
  cases o <;> rfl

lemma entries_drop (h : t[i]? = some o) :
    (t.drop i).reduceOption = o.toList ++ (t.drop (i + 1)).reduceOption := by
  rw [List.drop_eq_getElem?_toList_append, h]
  cases o <;> simp

lemma entries_take_set (h : i < t.length) :
    ((t.set i o).take (i + 1)).reduceOption = (t.take i).reduceOption ++ o.toList := by
  have hset : (t.set i o)[i]? = some o := by simp [h]
  rw [entries_take_succ hset, List.take_set_of_le (Nat.le_refl i)]

lemma drop_set_succ : (t.set i o).drop (i + 1) = t.drop (i + 1) := List.drop_set_of_lt (Nat.lt_add_one i)

lemma mem_entries_iff : a ∈ t.reduceOption ↔ ∃ i : ℕ, t[i]? = some (some a) := by
  rw [List.reduceOption_mem_iff, List.mem_iff_getElem?]

lemma entries_nodup (h : ∀ (i j : ℕ) a, t[i]? = some (some a) → t[j]? = some (some a) → i = j) :
    t.reduceOption.Nodup := by
  induction t with
  | nil => exact List.nodup_nil
  | cons o t ih =>
    have ht : t.reduceOption.Nodup := ih fun i j a hi hj => Nat.succ.inj (h (i + 1) (j + 1) a hi hj)
    cases o with
    | none => exact ht
    | some b =>
      rw [List.reduceOption_cons_of_some]
      refine List.nodup_cons.mpr ⟨fun hmem => ?_, ht⟩
      obtain ⟨j, hj⟩ := mem_entries_iff.mp hmem
      exact absurd (h 0 (j + 1) b rfl hj) (Nat.succ_ne_zero j).symm

lemma filled_get (h : t[i]? = some none) (hj : (t.set i (some a))[j]? = some (some b)) :
    (j = i ∧ b = a) ∨ (j ≠ i ∧ t[j]? = some (some b)) := by
  by_cases hji : j = i
  · subst hji
    have hlt : j < t.length := (List.getElem?_eq_some_iff.mp h).1
    exact .inl ⟨rfl, by simpa [hlt, eq_comm] using hj⟩
  · exact .inr ⟨hji, by simpa [List.getElem?_set_ne (Ne.symm hji)] using hj⟩

lemma cleared_get (hj : (t.set i none)[j]? = some (some b)) : j ≠ i ∧ t[j]? = some (some b) := by
  by_cases hji : j = i
  · subst hji
    rw [List.getElem?_set_self'] at hj
    cases h : t[j]? with
    | none => simp [h] at hj
    | some o => simp [h] at hj
  · exact ⟨hji, by simpa [List.getElem?_set_ne (Ne.symm hji)] using hj⟩

/-- A table that grows up to slot `i` -/
lemma grown_get (h : t.length ≤ i) :
    (t ++ List.replicate (i - t.length) none ++ [some a])[j]?.join = if j = i then some a else t[j]?.join := by
  have hlen : (t ++ List.replicate (i - t.length) none).length = i := by simp; omega
  rcases Nat.lt_trichotomy j i with hj | rfl | hj
  · rw [List.getElem?_append_left (by omega), if_neg (Nat.ne_of_lt hj), List.getElem?_append]
    split
    next => rfl
    next hj' =>
      rw [List.getElem?_eq_none (Nat.le_of_not_lt hj'), List.getElem?_replicate]
      split <;> rfl
  · rw [List.getElem?_append_right (Nat.le_of_eq hlen), hlen]
    simp
  · rw [List.getElem?_eq_none (by simp; omega), List.getElem?_eq_none (by omega), if_neg (Nat.ne_of_gt hj)]

end Ril.Lib
