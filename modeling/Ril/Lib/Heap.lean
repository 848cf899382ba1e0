import Mathlib.Data.List.Basic
import Mathlib.Data.List.Nodup

/-! An allocator of numbered blocks that records every release and every use of a block that
is not allocated. -/

namespace Ril.Lib

inductive HeapFault
  | doubleFree (block : ℕ)
  | useAfterFree (block : ℕ)
deriving DecidableEq, Repr

structure Heap where
  next : ℕ := 0
  live : List ℕ := []
  faults : List HeapFault := []
deriving DecidableEq, Repr

namespace Heap

def alloc (h : Heap) : Heap := { h with next := h.next + 1, live := h.next :: h.live }

def free (b : ℕ) (h : Heap) : Heap :=
  if b ∈ h.live then { h with live := h.live.erase b }
  else { h with faults := .doubleFree b :: h.faults }

def use (b : ℕ) (h : Heap) : Heap :=
  if b ∈ h.live then h else { h with faults := .useAfterFree b :: h.faults }

def freeAll (bs : List ℕ) (h : Heap) : Heap := bs.foldl (fun h b => h.free b) h

lemma freeAll_append (h : Heap) (bs cs : List ℕ) : h.freeAll (bs ++ cs) = (h.freeAll bs).freeAll cs :=
  List.foldl_append

lemma free_next (b : ℕ) (h : Heap) : (h.free b).next = h.next := by
  rw [free]
  split
  · rfl
  · rfl

lemma use_next (b : ℕ) (h : Heap) : (h.use b).next = h.next := by
  rw [use]
  split
  · rfl
  · rfl

lemma freeAll_next (bs : List ℕ) (h : Heap) : (h.freeAll bs).next = h.next := by
  induction bs generalizing h with
  | nil => rfl
  | cons b bs ih => exact (ih _).trans (free_next b h)

/-- Exactly these blocks are allocated, and nothing has gone wrong. -/
structure Owns (h : Heap) (bs : List ℕ) : Prop where
  faults : h.faults = []
  live : h.live.Perm bs
  nodup : bs.Nodup
  lt : ∀ b ∈ bs, b < h.next

variable {h : Heap} {b : ℕ} {bs cs : List ℕ}

namespace Owns

lemma init : Owns {} [] where
  faults := rfl
  live := .refl _
  nodup := List.nodup_nil
  lt := fun _ h => absurd h List.not_mem_nil

lemma perm (ho : h.Owns bs) (hp : bs.Perm cs) : h.Owns cs where
  faults := ho.faults
  live := ho.live.trans hp
  nodup := hp.nodup_iff.mp ho.nodup
  lt := fun b hb => ho.lt b (hp.mem_iff.mpr hb)

lemma mem_live (ho : h.Owns bs) (hb : b ∈ bs) : b ∈ h.live := ho.live.mem_iff.mpr hb

lemma alloc (ho : h.Owns bs) : h.alloc.Owns (h.next :: bs) where
  faults := ho.faults
  live := ho.live.cons _
  nodup := List.nodup_cons.mpr ⟨fun hm => Nat.lt_irrefl _ (ho.lt _ hm), ho.nodup⟩
  lt := by
    intro b hb
    rcases List.mem_cons.mp hb with rfl | hb
    · exact Nat.lt_succ_self _
    · exact Nat.lt_succ_of_lt (ho.lt b hb)

lemma free (ho : h.Owns (b :: bs)) : (h.free b).Owns bs := by
  have hl : b ∈ h.live := ho.mem_live List.mem_cons_self
  rw [Heap.free, if_pos hl]
  refine ⟨ho.faults, ?_, (List.nodup_cons.mp ho.nodup).2, fun x hx => ho.lt x (List.mem_cons_of_mem _ hx)⟩
  have hp := ho.live.erase b
  rwa [List.erase_cons_head] at hp

lemma use (ho : h.Owns bs) (hb : b ∈ bs) : h.use b = h := by
  rw [Heap.use, if_pos (ho.mem_live hb)]

lemma freeAll (ho : h.Owns (cs ++ bs)) : (h.freeAll cs).Owns bs := by
  induction cs generalizing h with
  | nil => exact ho
  | cons c cs ih => exact ih (free ho)

end Owns

/-! ### Faults stay -/

lemma free_faults (hf : h.faults ≠ []) : (h.free b).faults ≠ [] := by
  rw [free]
  split
  · exact hf
  · exact List.cons_ne_nil _ _

lemma use_faults (hf : h.faults ≠ []) : (h.use b).faults ≠ [] := by
  rw [use]
  split
  · exact hf
  · exact List.cons_ne_nil _ _

lemma use_released (hb : b ∉ h.live) : (h.use b).faults ≠ [] := by
  rw [use, if_neg hb]
  exact List.cons_ne_nil _ _

end Heap

end Ril.Lib
