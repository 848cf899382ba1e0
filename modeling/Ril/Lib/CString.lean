import Mathlib.Data.List.TakeWhile
import Ril.Lib.Memory

/-! Strings in a memory that end at a zero. -/

namespace Ril.Lib

/-- `while (p(*cur)) cur++`, for so many steps at most -/
def scanWhile (p : UInt8 → Bool) (memory : ℕ → UInt8) : ℕ → ℕ → ℕ
  | 0, cur => cur
  | fuel + 1, cur => if p (memory cur) then scanWhile p memory fuel (cur + 1) else cur

/-- The memory has the string at the address, and a zero behind it. -/
def HasString (memory : ℕ → UInt8) : ℕ → List UInt8 → Prop
  | cur, [] => memory cur = 0
  | cur, b :: bs => memory cur = b ∧ b ≠ 0 ∧ HasString memory (cur + 1) bs

variable {memory : ℕ → UInt8} {cur : ℕ} {a b s : List UInt8} {p : UInt8 → Bool}

lemma has_string_iff : HasString memory cur s ↔ cellsAt memory cur (s.length + 1) = s ++ [0] ∧ ∀ b ∈ s, b ≠ 0 := by
  induction s generalizing cur with
  | nil => simp [HasString, cellsAt]
  | cons c s ih =>
    have hc : cellsAt memory cur (s.length + 1 + 1) = memory cur :: cellsAt memory (cur + 1) (s.length + 1) := rfl
    rw [HasString, ih, List.length_cons, hc, List.cons_append, List.cons.injEq, List.forall_mem_cons]
    constructor
    · rintro ⟨h1, h2, h3, h4⟩
      exact ⟨⟨h1, h3⟩, h2, h4⟩
    · rintro ⟨⟨h1, h3⟩, h2, h4⟩
      exact ⟨h1, h2, h3, h4⟩

lemma HasString.suffix (h : HasString memory cur (a ++ b)) : HasString memory (cur + a.length) b := by
  induction a generalizing cur with
  | nil => exact h
  | cons c a ih =>
    have hs := ih h.2.2
    rwa [Nat.add_assoc, Nat.add_comm 1] at hs

lemma HasString.zero_iff (h : HasString memory cur s) : memory cur = 0 ↔ s = [] := by
  cases s with
  | nil => exact ⟨fun _ => rfl, fun _ => h⟩
  | cons c s =>
    constructor
    · intro h0
      exact absurd (h.1.symm.trans h0) h.2.1
    · intro h0
      cases h0

lemma HasString.congr {memory' : ℕ → UInt8} (h : HasString memory cur s)
    (he : ∀ i, cur ≤ i → i ≤ cur + s.length → memory' i = memory i) : HasString memory' cur s := by
  obtain ⟨hc, hz⟩ := has_string_iff.mp h
  refine has_string_iff.mpr ⟨?_, hz⟩
  rw [← hc]
  exact cells_at_congr fun i h1 h2 => he i h1 (by omega)

/-- A scan whose predicate fails at the zero stays in the string. -/
lemma HasString.scan (h : HasString memory cur s) (h0 : p 0 = false) {fuel : ℕ} (hf : s.length ≤ fuel) :
    scanWhile p memory fuel cur = cur + (s.takeWhile p).length := by
  induction s generalizing cur fuel with
  | nil =>
    cases fuel with
    | zero => rfl
    | succ fuel =>
      have hm : memory cur = 0 := h
      rw [scanWhile, hm, h0]
      rfl
  | cons c s ih =>
    cases fuel with
    | zero => exact absurd hf (by simp)
    | succ fuel =>
      rw [scanWhile, h.1, List.takeWhile_cons]
      by_cases hc : p c = true
      · rw [if_pos hc, if_pos hc, ih h.2.2 (Nat.le_of_succ_le_succ hf), List.length_cons]
        omega
      · rw [if_neg hc, if_neg hc]
        rfl

lemma HasString.skip (h : HasString memory cur s) (p : UInt8 → Bool) :
    HasString memory (cur + (s.takeWhile p).length) (s.dropWhile p) := by
  refine HasString.suffix ?_
  rw [List.takeWhile_append_dropWhile]
  exact h

/-- A zero that is written into a string ends it there. -/
lemma HasString.cut {c : UInt8} (h : HasString memory cur (a ++ c :: b)) :
    HasString (Function.update memory (cur + a.length) 0) cur a ∧
      HasString (Function.update memory (cur + a.length) 0) (cur + a.length + 1) b := by
  refine ⟨?_, ?_⟩
  · obtain ⟨hc, hz⟩ := has_string_iff.mp h
    refine has_string_iff.mpr ⟨?_, fun d hd => hz d (List.mem_append_left _ hd)⟩
    rw [cells_at_add]
    have h1 : cellsAt (Function.update memory (cur + a.length) 0) cur a.length = cellsAt memory cur a.length :=
      cells_at_congr fun i _ hi => Function.update_of_ne (by omega) _ _
    have h2 := congrArg (List.take a.length) hc
    rw [cells_at_take (by simp; omega), List.append_assoc, List.take_left] at h2
    rw [h1, h2, cellsAt, Function.update_self, cellsAt]
  · exact h.suffix.2.2.congr fun i hi _ => Function.update_of_ne (by omega) _ _

/-- What is written over the zero makes the string longer. -/
lemma HasString.extend (h : HasString memory cur a) (hb : ∀ c ∈ b, c ≠ 0) :
    HasString (Function.update (storeAt memory (cur + a.length) b) (cur + a.length + b.length) 0) cur (a ++ b) := by
  obtain ⟨hc, hz⟩ := has_string_iff.mp h
  refine has_string_iff.mpr ⟨?_, fun c hm => ?_⟩
  · have h1 : cellsAt (Function.update (storeAt memory (cur + a.length) b) (cur + a.length + b.length) 0) cur
        (a.length + b.length) = cellsAt (storeAt memory (cur + a.length) b) cur (a.length + b.length) :=
      cells_at_congr fun i _ hi => Function.update_of_ne (by omega) _ _
    have h2 := congrArg (List.take a.length) hc
    rw [cells_at_take (by omega), List.take_left] at h2
    rw [List.length_append, cells_at_add, h1, cells_at_add, cells_at_store_outside (.inl (Nat.le_refl _)), h2,
      cells_at_store, ← Nat.add_assoc, cellsAt, Function.update_self, cellsAt]
  · rcases List.mem_append.mp hm with hm | hm
    · exact hz c hm
    · exact hb c hm

lemma HasString.move (h : HasString memory cur s) (target : ℕ) :
    HasString (storeAt memory target (cellsAt memory cur (s.length + 1))) target s := by
  obtain ⟨hc, hz⟩ := has_string_iff.mp h
  refine has_string_iff.mpr ⟨?_, hz⟩
  have hs := cells_at_store memory target (cellsAt memory cur (s.length + 1))
  rw [cells_at_length] at hs
  exact hs.trans hc

end Ril.Lib
