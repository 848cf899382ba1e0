import Mathlib.Algebra.Order.Ring.Int
import Mathlib.Tactic.Common

/-! Programs that read the cells of a memory through pointers, and whether all that they read lies in one block. -/

namespace Ril.Lib

/-- A program asks for a cell and goes on with what stands there, or reads through `NULL` and stops. -/
inductive Reading (β α : Type)
  | done (result : α)
  | null
  | read (address : ℤ) (next : β → Reading β α)

namespace Reading

variable {α β γ : Type}

def bind : Reading β α → (α → Reading β γ) → Reading β γ
  | done result, f => f result
  | null, _ => null
  | read address next, f => read address fun b => (next b).bind f

instance : Monad (Reading β) where
  pure := done
  bind := bind

/-- What the program returns on a memory, unless it reads through `NULL` -/
def outcome (memory : ℤ → β) : Reading β α → Option α
  | done result => some result
  | null => none
  | read address next => (next (memory address)).outcome memory

/-- All that the program reads of a memory lies in a block. -/
def Within (memory : ℤ → β) (block : ℤ → Prop) : Reading β α → Prop
  | done _ => True
  | null => False
  | read address next => block address ∧ (next (memory address)).Within memory block

/-- A read through a pointer, where `none` is `NULL` -/
def readAt (pointer : Option ℤ) (offset : ℤ) : Reading β β :=
  pointer.elim null fun base => read (base + offset) done

/-- The cells from a pointer on -/
def readCells (base : ℤ) : ℕ → Reading β (List β)
  | 0 => done []
  | count + 1 => do
    let cell ← readAt (some base) 0
    let cells ← readCells (base + 1) count
    return cell :: cells

variable {memory : ℤ → β} {block : ℤ → Prop} {pointer : Option ℤ} {base offset : ℤ}

@[simp] lemma outcome_pure (result : α) : (pure result : Reading β α).outcome memory = some result := rfl

@[simp] lemma within_pure (result : α) : (pure result : Reading β α).Within memory block := trivial

@[simp] lemma pure_bind (result : α) (f : α → Reading β γ) : pure result >>= f = f result := rfl

lemma bind_assoc {δ : Type} (p : Reading β α) (f : α → Reading β γ) (g : γ → Reading β δ) :
    p >>= f >>= g = p >>= fun result => f result >>= g := by
  induction p with
  | done result => rfl
  | null => rfl
  | read address next ih => exact congrArg (read address) (funext ih)

lemma outcome_bind (p : Reading β α) (f : α → Reading β γ) :
    (p >>= f).outcome memory = (p.outcome memory).bind fun result => (f result).outcome memory := by
  induction p with
  | done result => rfl
  | null => rfl
  | read address next ih => exact ih (memory address)

lemma within_bind (p : Reading β α) (f : α → Reading β γ) : (p >>= f).Within memory block ↔
    p.Within memory block ∧ ∀ result, p.outcome memory = some result → (f result).Within memory block := by
  induction p with
  | done result =>
    constructor
    · rintro h
      exact ⟨trivial, fun r hr => Option.some.inj hr ▸ h⟩
    · rintro ⟨-, h⟩
      exact h result rfl
  | null => exact ⟨False.elim, fun h => h.1⟩
  | read address next ih =>
    constructor
    · rintro ⟨haddress, h⟩
      obtain ⟨hnext, hf⟩ := (ih (memory address)).mp h
      exact ⟨⟨haddress, hnext⟩, hf⟩
    · rintro ⟨⟨haddress, hnext⟩, hf⟩
      exact ⟨haddress, (ih (memory address)).mpr ⟨hnext, hf⟩⟩

@[simp] lemma outcome_read_at (base offset : ℤ) (f : β → Reading β γ) :
    (readAt (some base) offset >>= f).outcome memory = (f (memory (base + offset))).outcome memory := rfl

lemma within_read_at (base offset : ℤ) (f : β → Reading β γ) : (readAt (some base) offset >>= f).Within memory block ↔
    block (base + offset) ∧ (f (memory (base + offset))).Within memory block := Iff.rfl

@[simp] lemma outcome_read_null (f : β → Reading β γ) : (readAt none offset >>= f).outcome memory = none := rfl

@[simp] lemma not_within_read_null (f : β → Reading β γ) : ¬(readAt none offset >>= f).Within memory block :=
  False.elim

lemma outcome_read_cells (base : ℤ) (count : ℕ) :
    (readCells base count).outcome memory = some ((List.range count).map fun i : ℕ => memory (base + i)) := by
  induction count generalizing base with
  | zero => rfl
  | succ count ih =>
    rw [readCells, outcome_read_at, outcome_bind, ih, List.range_succ_eq_map]
    have h : ∀ i : ℕ, base + 1 + i = base + (i + 1) := fun i => by omega
    simp [h, Function.comp_def]

lemma within_read_cells (base : ℤ) (count : ℕ) :
    (readCells base count : Reading β _).Within memory block ↔ ∀ i < count, block (base + i) := by
  induction count generalizing base with
  | zero => exact iff_of_true trivial fun i hi => absurd hi (Nat.not_lt_zero i)
  | succ count ih =>
    rw [readCells, within_read_at, within_bind, ih]
    constructor
    · rintro ⟨h0, h, -⟩ i hi
      cases i with
      | zero => exact h0
      | succ i =>
        have hnext := h i (by omega)
        rw [Nat.cast_succ, Int.add_comm (i : ℤ) 1, ← Int.add_assoc]
        exact hnext
    · intro h
      refine ⟨h 0 (by omega), fun i hi => ?_, fun _ _ => trivial⟩
      have hnext := h (i + 1) (by omega)
      rw [Nat.cast_succ, Int.add_comm (i : ℤ) 1, ← Int.add_assoc] at hnext
      exact hnext

lemma outcome_of_within {p : Reading β α} (h : p.Within memory block) : ∃ result, p.outcome memory = some result := by
  induction p with
  | done result => exact ⟨result, rfl⟩
  | null => exact h.elim
  | read address next ih => exact ih _ h.2

/-- `strncpy`, which reads no further than a zero -/
def readString (base : ℤ) : ℕ → Reading UInt8 (List UInt8)
  | 0 => done []
  | count + 1 => do
    let cell ← readAt (some base) 0
    if cell = 0 then done []
    else
      let cells ← readString (base + 1) count
      return cell :: cells

lemma within_read_string {memory : ℤ → UInt8} {count : ℕ} (h : ∀ i : ℕ, i < count → block (base + i)) :
    (readString base count).Within memory block := by
  induction count generalizing base with
  | zero => trivial
  | succ count ih =>
    refine ⟨by simpa using h 0 (Nat.succ_pos count), ?_⟩
    show Within memory block (if memory (base + 0) = 0 then done [] else
      readString (base + 1) count >>= fun cells => pure (memory (base + 0) :: cells))
    split
    · trivial
    · refine (within_bind _ _).mpr ⟨ih fun i hi => ?_, fun _ _ => trivial⟩
      have hnext := h (i + 1) (Nat.succ_lt_succ hi)
      rw [Nat.cast_succ, Int.add_comm (i : ℤ) 1, ← Int.add_assoc] at hnext
      exact hnext

lemma outcome_read_string {memory : ℤ → UInt8} (base : ℤ) (count : ℕ) : (readString base count).outcome memory =
    some (((List.range count).map fun i : ℕ => memory (base + i)).takeWhile (· != 0)) := by
  induction count generalizing base with
  | zero => rfl
  | succ count ih =>
    have h : ∀ i : ℕ, base + 1 + i = base + (i + 1) := fun i => by omega
    rw [readString, outcome_read_at, List.range_succ_eq_map, Int.add_zero]
    by_cases hz : memory base = 0
    · simp [hz, outcome]
    · rw [if_neg hz, outcome_bind, ih]
      simp [hz, h, Function.comp_def]

/-! ### Ranges that a program hands on -/

structure Span where
  start : ℤ
  count : ℕ
deriving DecidableEq, Repr

def Span.Inside (block : ℤ → Prop) (span : Span) : Prop := ∀ i : ℕ, i < span.count → block (span.start + i)

/-- All that the program reads lies in the block, and so do the ranges that it hands on. -/
def InBounds (memory : ℤ → β) (block : ℤ → Prop) (p : Reading β (List Span)) : Prop :=
  p.Within memory block ∧ ∀ spans, p.outcome memory = some spans → ∀ span ∈ spans, span.Inside block

@[simp] lemma in_bounds_pure (spans : List Span) :
    InBounds memory block (pure spans) ↔ ∀ span ∈ spans, span.Inside block :=
  ⟨fun h => h.2 spans rfl, fun h => ⟨trivial, fun _ he => Option.some.inj he ▸ h⟩⟩

lemma in_bounds_bind (p : Reading β α) (f : α → Reading β (List Span)) : InBounds memory block (p >>= f) ↔
    p.Within memory block ∧ ∀ result, p.outcome memory = some result → InBounds memory block (f result) := by
  rw [InBounds, within_bind, outcome_bind]
  constructor
  · rintro ⟨⟨hp, hf⟩, hspans⟩
    exact ⟨hp, fun result hr => ⟨hf result hr, fun spans hs => hspans spans (by rw [hr]; exact hs)⟩⟩
  · rintro ⟨hp, hf⟩
    refine ⟨⟨hp, fun result hr => (hf result hr).1⟩, fun spans hs => ?_⟩
    obtain ⟨result, hr, hs⟩ := Option.bind_eq_some_iff.mp hs
    exact (hf result hr).2 spans hs

lemma in_bounds_cons (p : Reading β (List Span)) (span : Span) :
    InBounds memory block (p >>= fun spans => pure (span :: spans)) ↔ span.Inside block ∧ InBounds memory block p := by
  rw [in_bounds_bind]
  constructor
  · rintro ⟨hp, hf⟩
    obtain ⟨spans, hs⟩ := outcome_of_within hp
    have h := (in_bounds_pure _).mp (hf spans hs)
    refine ⟨h span (.head _), hp, fun spans' hs' => ?_⟩
    exact fun s hmem => (in_bounds_pure _).mp (hf spans' hs') s (.tail _ hmem)
  · rintro ⟨hspan, hp, hspans⟩
    exact ⟨hp, fun spans hs => (in_bounds_pure _).mpr (List.forall_mem_cons.mpr ⟨hspan, hspans spans hs⟩)⟩

end Reading

end Ril.Lib
