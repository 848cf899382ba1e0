import Mathlib.Data.List.TakeWhile
import Mathlib.Tactic.Common

/-! Strings that end at a zero, in a block of bytes outside of which nothing can be read. -/

namespace Ril.Lib

def scanFrom (p : UInt8 → Bool) : ℕ → List UInt8 → Option ℕ
  | _, [] => none
  | i, b :: bs => if p b then scanFrom p (i + 1) bs else some i

/-- `while (p(block[i])) i++`, and nothing if it leaves the block -/
def scanBlock (p : UInt8 → Bool) (block : List UInt8) (i : ℕ) : Option ℕ := scanFrom p i (block.drop i)

def blockString (block : List UInt8) (i : ℕ) : Option (List UInt8) :=
  (scanBlock (· != 0) block i).map fun j => (block.drop i).take (j - i)

/-- The block has the string at this place, and a zero behind it. -/
structure StringAt (block : List UInt8) (i : ℕ) (s : List UInt8) : Prop where
  terminated : ∃ tail, block.drop i = s ++ 0 :: tail
  nonzero : ∀ b ∈ s, b ≠ 0

variable {p : UInt8 → Bool} {block a b s : List UInt8} {c : UInt8} {i j : ℕ}

lemma scan_from_append (h0 : p 0 = false) (tail : List UInt8) :
    scanFrom p i (s ++ 0 :: tail) = some (i + (s.takeWhile p).length) := by
  induction s generalizing i with
  | nil =>
    rw [List.nil_append, scanFrom, h0]
    rfl
  | cons c s ih =>
    rw [List.cons_append, scanFrom, List.takeWhile_cons]
    split
    · rw [ih, List.length_cons]
      congr 1
      omega
    · rfl

namespace StringAt

/-- A scan that stops at the zero stays in the string. -/
lemma scan (h : StringAt block i s) (h0 : p 0 = false) : scanBlock p block i = some (i + (s.takeWhile p).length) := by
  obtain ⟨tail, ht⟩ := h.terminated
  rw [scanBlock, ht, scan_from_append h0]

lemma suffix (h : StringAt block i (a ++ b)) : StringAt block (i + a.length) b := by
  obtain ⟨tail, ht⟩ := h.terminated
  refine ⟨⟨tail, ?_⟩, fun c hc => h.nonzero c (List.mem_append_right _ hc)⟩
  rw [← List.drop_drop, ht, List.append_assoc, List.drop_left]

lemma skip (h : StringAt block i s) (p : UInt8 → Bool) :
    StringAt block (i + (s.takeWhile p).length) (s.dropWhile p) := by
  refine suffix ?_
  rwa [List.takeWhile_append_dropWhile]

/-- The usual loop over a string: it also stops at the zero. -/
lemma scan_while (h : StringAt block i s) (p : UInt8 → Bool) :
    scanBlock (fun b => b != 0 && p b) block i = some (i + (s.takeWhile p).length) := by
  have hw : s.takeWhile (fun b => b != 0 && p b) = s.takeWhile p := by
    have hz := h.nonzero
    clear h
    induction s with
    | nil => rfl
    | cons b s ih =>
      have hb : (b != 0) = true := by simpa using hz b List.mem_cons_self
      rw [List.takeWhile_cons, List.takeWhile_cons, hb, Bool.true_and, ih fun c hc => hz c (List.mem_cons_of_mem _ hc)]
  rw [h.scan (by simp), hw]

lemma get_nil (h : StringAt block i []) : block[i]? = some 0 := by
  obtain ⟨tail, ht⟩ := h.terminated
  have hg := congrArg List.head? ht
  rwa [List.head?_drop] at hg

lemma get_cons (h : StringAt block i (c :: s)) : block[i]? = some c := by
  obtain ⟨tail, ht⟩ := h.terminated
  have hg := congrArg List.head? ht
  rwa [List.head?_drop] at hg

lemma tail (h : StringAt block i (c :: s)) : StringAt block (i + 1) s := suffix (a := [c]) h

lemma read (h : StringAt block i s) : blockString block i = some s := by
  obtain ⟨tail, ht⟩ := h.terminated
  have hall : s.takeWhile (· != 0) = s := List.takeWhile_eq_self_iff.mpr fun b hb => by simpa using h.nonzero b hb
  rw [blockString, h.scan (by decide), hall, Option.map_some, Nat.add_sub_cancel_left, ht, List.take_left]

/-- A zero that is written into a string ends it there. -/
lemma cut (h : StringAt block i (a ++ c :: b)) :
    StringAt (block.set (i + a.length) 0) i a ∧ StringAt (block.set (i + a.length) 0) (i + a.length + 1) b := by
  obtain ⟨tail, ht⟩ := h.terminated
  refine ⟨⟨⟨b ++ 0 :: tail, ?_⟩, fun d hd => h.nonzero d (List.mem_append_left _ hd)⟩,
    ⟨tail, ?_⟩, fun d hd => h.nonzero d (List.mem_append_right _ (List.mem_cons_of_mem _ hd))⟩
  · rw [List.drop_set, if_neg (by omega), Nat.add_sub_cancel_left, ht, List.append_assoc,
      List.set_append_right _ _ le_rfl, Nat.sub_self]
    rfl
  · have hd := congrArg (List.drop (a.length + 1)) ht
    rw [List.drop_drop, ← Nat.add_assoc] at hd
    rw [List.drop_set_of_lt (Nat.lt_succ_self _), hd, List.append_assoc, List.drop_length_add_append]
    rfl

/-- A string that ends before the place where a byte is written stays. -/
lemma before (h : StringAt block i s) (hj : i + s.length < j) : StringAt (block.set j c) i s := by
  obtain ⟨tail, ht⟩ := h.terminated
  refine ⟨⟨(tail.set (j - i - s.length - 1) c), ?_⟩, h.nonzero⟩
  have hji : j - i - s.length = j - i - s.length - 1 + 1 := by omega
  rw [List.drop_set, if_neg (by omega), ht, List.set_append_right _ _ (by omega), hji, List.set_cons_succ, Nat.add_sub_cancel]

end StringAt

end Ril.Lib
