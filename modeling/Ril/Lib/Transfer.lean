import Mathlib.Tactic.Common

/-! A transfer in pieces: each call returns a result from a schedule, which ends the transfer or counts as some of what
is missing. -/

namespace Ril.Lib

inductive TransferEnd
  | complete | broken | waits
deriving DecidableEq, Repr

variable {ρ : Type} (accepts : ρ → Bool) (counted : ρ → ℕ)

def transfer : List ρ → ℕ → TransferEnd
  | _, 0 => .complete
  | [], _ + 1 => .waits
  | result :: results, missing + 1 =>
    if accepts result then transfer results (missing + 1 - counted result) else .broken

/-- The first results of an endless schedule -/
def firstResults (results : ℕ → ρ) : ℕ → List ρ
  | 0 => []
  | n + 1 => results 0 :: firstResults (fun k => results (k + 1)) n

/-- What the first results count as -/
def countUpTo (results : ℕ → ρ) : ℕ → ℕ
  | 0 => 0
  | n + 1 => counted (results 0) + countUpTo (fun k => results (k + 1)) n

/-- All that is missing is counted before a result that is not accepted. -/
def Completes (results : ℕ → ρ) (missing : ℕ) : Prop :=
  ∃ n, (∀ k < n, accepts (results k) = true) ∧ missing ≤ countUpTo counted results n

/-- A result that is not accepted comes before all that is missing is counted. -/
def Breaks (results : ℕ → ρ) (missing : ℕ) : Prop :=
  ∃ n, (∀ k < n, accepts (results k) = true) ∧ accepts (results n) = false ∧ countUpTo counted results n < missing

variable {accepts counted} {results : ℕ → ρ} {missing n : ℕ}

lemma transfer_zero (schedule : List ρ) : transfer accepts counted schedule 0 = .complete := by
  cases schedule <;> rfl

lemma transfer_nil (h : 0 < missing) : transfer accepts counted [] missing = .waits := by
  obtain ⟨m, rfl⟩ := Nat.exists_eq_succ_of_ne_zero (Nat.ne_of_gt h)
  rfl

lemma transfer_cons {result : ρ} {schedule : List ρ} (h : 0 < missing) :
    transfer accepts counted (result :: schedule) missing =
      if accepts result then transfer accepts counted schedule (missing - counted result) else .broken := by
  obtain ⟨m, rfl⟩ := Nat.exists_eq_succ_of_ne_zero (Nat.ne_of_gt h)
  rfl

lemma accepted_succ {P : ℕ → Prop} {m : ℕ} : (∀ k < m + 1, P k) ↔ P 0 ∧ ∀ k < m, P (k + 1) := by
  constructor
  · exact fun h => ⟨h 0 (by omega), fun k hk => h (k + 1) (by omega)⟩
  · rintro ⟨h0, h⟩ k hk
    cases k with
    | zero => exact h0
    | succ k => exact h k (by omega)

lemma transfer_complete_iff : transfer accepts counted (firstResults results n) missing = .complete ↔
    ∃ m ≤ n, (∀ k < m, accepts (results k) = true) ∧ missing ≤ countUpTo counted results m := by
  induction n generalizing results missing with
  | zero =>
    cases missing with
    | zero => exact iff_of_true rfl ⟨0, Nat.le_refl 0, fun k hk => absurd hk (Nat.not_lt_zero k), Nat.le_refl 0⟩
    | succ missing =>
      refine iff_of_false (fun h => by cases h) ?_
      rintro ⟨m, hm, -, hc⟩
      obtain rfl : m = 0 := by omega
      simp [countUpTo] at hc
  | succ n ih =>
    by_cases h0 : missing = 0
    · subst h0
      exact iff_of_true (transfer_zero _) ⟨0, Nat.zero_le _, fun k hk => absurd hk (Nat.not_lt_zero k), Nat.le_refl 0⟩
    · rw [firstResults, transfer_cons (Nat.pos_of_ne_zero h0)]
      cases ha : accepts (results 0) with
      | false =>
        refine iff_of_false (by simp) ?_
        rintro ⟨m, -, hall, hc⟩
        cases m with
        | zero =>
          simp only [countUpTo] at hc
          omega
        | succ m => simp [hall 0 (by omega)] at ha
      | true =>
        rw [if_pos rfl, ih]
        constructor
        · rintro ⟨m, hm, hall, hc⟩
          refine ⟨m + 1, by omega, accepted_succ.mpr ⟨ha, hall⟩, ?_⟩
          simp only [countUpTo]
          omega
        · rintro ⟨m, hm, hall, hc⟩
          cases m with
          | zero =>
            simp only [countUpTo] at hc
            omega
          | succ m =>
            simp only [countUpTo] at hc
            exact ⟨m, by omega, (accepted_succ.mp hall).2, by omega⟩

lemma transfer_broken_iff : transfer accepts counted (firstResults results n) missing = .broken ↔
    ∃ m < n, (∀ k < m, accepts (results k) = true) ∧ accepts (results m) = false ∧
      countUpTo counted results m < missing := by
  induction n generalizing results missing with
  | zero =>
    refine iff_of_false ?_ (by rintro ⟨m, hm, -⟩; omega)
    cases missing <;> simp [firstResults, transfer]
  | succ n ih =>
    by_cases h0 : missing = 0
    · subst h0
      refine iff_of_false ?_ (by rintro ⟨m, -, -, -, hc⟩; omega)
      rw [transfer_zero]
      simp
    · rw [firstResults, transfer_cons (Nat.pos_of_ne_zero h0)]
      cases ha : accepts (results 0) with
      | false =>
        refine iff_of_true (by simp) ⟨0, by omega, fun k hk => absurd hk (Nat.not_lt_zero k), ha, ?_⟩
        simp only [countUpTo]
        omega
      | true =>
        rw [if_pos rfl, ih]
        constructor
        · rintro ⟨m, hm, hall, hb, hc⟩
          refine ⟨m + 1, by omega, accepted_succ.mpr ⟨ha, hall⟩, hb, ?_⟩
          simp only [countUpTo]
          omega
        · rintro ⟨m, hm, hall, hb, hc⟩
          cases m with
          | zero => simp [ha] at hb
          | succ m =>
            simp only [countUpTo] at hc
            exact ⟨m, by omega, (accepted_succ.mp hall).2, hb, by omega⟩

lemma completes_iff : (∃ n, transfer accepts counted (firstResults results n) missing = .complete) ↔
    Completes accepts counted results missing := by
  constructor
  · rintro ⟨n, h⟩
    obtain ⟨m, -, hm⟩ := transfer_complete_iff.mp h
    exact ⟨m, hm⟩
  · rintro ⟨m, hm⟩
    exact ⟨m, transfer_complete_iff.mpr ⟨m, Nat.le_refl m, hm⟩⟩

lemma breaks_iff : (∃ n, transfer accepts counted (firstResults results n) missing = .broken) ↔
    Breaks accepts counted results missing := by
  constructor
  · rintro ⟨n, h⟩
    obtain ⟨m, -, hm⟩ := transfer_broken_iff.mp h
    exact ⟨m, hm⟩
  · rintro ⟨m, hm⟩
    exact ⟨m + 1, transfer_broken_iff.mpr ⟨m, by omega, hm⟩⟩

end Ril.Lib
