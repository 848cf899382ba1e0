import Mathlib.Algebra.Order.Ring.Int

/-! An eventfd without `EFD_SEMAPHORE`, opened with `EFD_NONBLOCK`. -/

namespace Ril.Lib

structure EventFd where
  count : ℕ
  count_lt : count < 2 ^ 64 - 1

namespace EventFd

def empty : EventFd := ⟨0, by decide⟩

/-- Nothing is read from an empty counter, and nothing is left in a counter that was read. -/
def read (fd : EventFd) : Option ℕ × EventFd := (if fd.count = 0 then none else some fd.count, empty)

/-- What is written is added, unless the counter would overflow. -/
def write (value : ℕ) (fd : EventFd) : Option EventFd :=
  if h : fd.count + value < 2 ^ 64 - 1 then some ⟨fd.count + value, h⟩ else none

@[simp] lemma empty_count : empty.count = 0 := rfl

@[simp] lemma read_snd (fd : EventFd) : fd.read.2 = empty := rfl

lemma read_eq_some {fd : EventFd} {value : ℕ} : fd.read.1 = some value ↔ fd.count = value ∧ value ≠ 0 := by
  rw [read]
  split
  · rename_i h
    constructor
    · simp
    · rintro ⟨rfl, hv⟩
      exact absurd h hv
  · rename_i h
    constructor
    · rintro hv
      cases hv
      exact ⟨rfl, h⟩
    · rintro ⟨rfl, -⟩
      rfl

lemma write_count {fd fd' : EventFd} {value : ℕ} (h : fd.write value = some fd') :
    fd'.count = fd.count + value := by
  rw [write] at h
  split at h
  · cases h
    rfl
  · cases h

end EventFd

end Ril.Lib
