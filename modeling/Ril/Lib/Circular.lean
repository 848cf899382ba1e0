import Mathlib.Data.List.Chain
import Mathlib.Data.List.Nodup
import Mathlib.Logic.Function.Basic

/-! Circular doubly linked lists in one memory. The head of a list is linked like its nodes. -/

namespace Ril.Lib

variable {P : Type*}

structure Links (P : Type*) where
  next : P → Option P
  prev : P → Option P

namespace Links

def Linked (l : Links P) (a b : P) : Prop := l.next a = some b ∧ l.prev b = some a

variable [DecidableEq P]

/-- `a` comes between `p` and `n`. -/
def insert (l : Links P) (a p n : P) : Links P where
  next := Function.update (Function.update l.next a (some n)) p (some a)
  prev := Function.update (Function.update l.prev a (some p)) n (some a)

/-- `a` goes, from between `p` and `n`. -/
def remove (l : Links P) (a p n : P) : Links P where
  next := Function.update (Function.update l.next p (some n)) a none
  prev := Function.update (Function.update l.prev n (some p)) a none

variable {l : Links P} {a p n x y : P}

lemma insert_linked (hxa : x ≠ a) (hya : y ≠ a) (hxp : x ≠ p) (hyn : y ≠ n) (h : l.Linked x y) :
    (l.insert a p n).Linked x y := by
  simpa [Linked, insert, hxa, hya, hxp, hyn] using h

lemma insert_left (hn : n ≠ a) : (l.insert a p n).Linked p a := by simp [Linked, insert, hn.symm]

lemma insert_right (hp : p ≠ a) : (l.insert a p n).Linked a n := by simp [Linked, insert, hp.symm]

lemma remove_linked (hxa : x ≠ a) (hya : y ≠ a) (hxp : x ≠ p) (hyn : y ≠ n) (h : l.Linked x y) :
    (l.remove a p n).Linked x y := by
  simpa [Linked, remove, hxa, hya, hxp, hyn] using h

lemma remove_gap (hp : p ≠ a) (hn : n ≠ a) : (l.remove a p n).Linked p n := by simp [Linked, remove, hp, hn]

/-- The links of a pointer that is none of the three -/
lemma insert_other (hxa : x ≠ a) (hxp : x ≠ p) (hxn : x ≠ n) :
    (l.insert a p n).next x = l.next x ∧ (l.insert a p n).prev x = l.prev x := by simp [insert, hxa, hxp, hxn]

lemma remove_other (hxa : x ≠ a) (hxp : x ≠ p) (hxn : x ≠ n) :
    (l.remove a p n).next x = l.next x ∧ (l.remove a p n).prev x = l.prev x := by simp [remove, hxa, hxp, hxn]

@[simp] lemma remove_self : (l.remove a p n).next a = none := by simp [remove]

end Links

structure Circular (l : Links P) (head : P) (nodes : List P) : Prop where
  chain : (head :: nodes ++ [head]).IsChain l.Linked
  nodup : (head :: nodes).Nodup

/-! ### Neighbours -/

lemma chain_frame {R S : P → P → Prop} {xs : List P} (h : xs.IsChain R)
    (hRS : ∀ a ∈ xs.dropLast, ∀ b ∈ xs.tail, R a b → S a b) : xs.IsChain S := by
  induction h with
  | nil => exact .nil
  | singleton a => exact .singleton a
  | @cons_cons a b xs hr _ ih =>
    refine .cons_cons (hRS a (by simp) b (by simp) hr) (ih fun x hx y hy => ?_)
    exact hRS x (List.mem_cons_of_mem _ hx) y (List.mem_cons_of_mem _ hy)

/-- The last element of a list that ends with another one is not before its end. -/
lemma last_not_in_front {head : P} {xs : List P} (h : (head :: xs).Nodup) :
    xs.getLastD head ∉ (head :: xs).dropLast := by
  have hsplit := List.dropLast_append_getLast (List.cons_ne_nil head xs)
  rw [List.getLast_eq_getLastD] at hsplit
  rw [← hsplit] at h
  exact fun hmem => (List.nodup_append.mp h).2.2 _ hmem _ (List.mem_singleton_self _) rfl

lemma first_mem (head : P) (xs : List P) : xs.headD head ∈ head :: xs := by
  cases xs with
  | nil => exact List.mem_cons_self
  | cons x xs => exact List.mem_cons_of_mem _ List.mem_cons_self

variable {l l' : Links P} {head a : P} {nodes xs ys : List P}

lemma last_mem_ring : xs.getLastD head ∈ head :: (xs ++ ys) := by
  rw [← List.cons_append]
  exact List.mem_append_left _ List.getLastD_mem_cons

lemma first_mem_ring : ys.headD head ∈ head :: (xs ++ ys) := by
  rcases List.mem_cons.mp (first_mem head ys) with heq | hmem
  · rw [heq]
    exact List.mem_cons_self
  · exact List.mem_cons_of_mem _ (List.mem_append_right _ hmem)

lemma head_of_end {y : P} (h : y ∈ (ys ++ [head]).head?) : ys.headD head = y := by
  cases ys with
  | nil => exact Option.some.inj h
  | cons n ys => exact Option.some.inj h

namespace Circular

lemma parts (h : Circular l head (xs ++ ys)) : (head :: xs).IsChain l.Linked ∧ (ys ++ [head]).IsChain l.Linked ∧
    l.Linked (xs.getLastD head) (ys.headD head) := by
  have hc := h.chain
  rw [← List.cons_append, List.append_assoc] at hc
  obtain ⟨hxs, hys, hgap⟩ := List.isChain_append.mp hc
  refine ⟨hxs, hys, hgap _ ?_ _ ?_⟩
  · rw [← List.getLast_eq_getLastD, Option.mem_def, List.getLast?_eq_some_getLast (List.cons_ne_nil head xs)]
  · cases ys with
    | nil => rfl
    | cons y ys => rfl

lemma empty_iff : Circular l head [] ↔ l.Linked head head :=
  ⟨fun h => have hc : Circular l head ([] ++ []) := h
    hc.parts.2.2, fun h => ⟨by simpa using h, List.nodup_singleton head⟩⟩

lemma congr (h : Circular l head nodes) (he : ∀ p ∈ head :: nodes, l'.next p = l.next p ∧ l'.prev p = l.prev p) :
    Circular l' head nodes := by
  have hmem : ∀ p ∈ head :: nodes ++ [head], p ∈ head :: nodes := by
    intro p hp
    rcases List.mem_append.mp hp with hp | hp
    · exact hp
    · exact List.mem_singleton.mp hp ▸ List.mem_cons_self
  refine ⟨h.chain.imp_of_mem_imp fun x y hx hy hxy => ?_, h.nodup⟩
  exact ⟨(he x (hmem x hx)).1.trans hxy.1, (he y (hmem y hy)).2.trans hxy.2⟩

/-- The two parts keep their links where only those of the gap between them change. -/
lemma sides (hnodup : (head :: (xs ++ ys)).Nodup) (hxs : (head :: xs).IsChain l.Linked)
    (hys : (ys ++ [head]).IsChain l.Linked)
    (hl : ∀ x ∈ head :: (xs ++ ys), ∀ y ∈ head :: (xs ++ ys), x ≠ xs.getLastD head → y ≠ ys.headD head →
      l.Linked x y → l'.Linked x y) :
    (head :: xs).IsChain l'.Linked ∧ (ys ++ [head]).IsChain l'.Linked := by
  obtain ⟨hhead, hrest⟩ := List.nodup_cons.mp hnodup
  obtain ⟨hnx, hny, hne⟩ := List.nodup_append.mp hrest
  have hhx : head ∉ xs := fun hmem => hhead (List.mem_append_left _ hmem)
  have hhy : head ∉ ys := fun hmem => hhead (List.mem_append_right _ hmem)
  refine ⟨chain_frame hxs fun x hx y hy hxy => ?_, chain_frame hys fun x hx y hy hxy => ?_⟩
  · have hxp : x ≠ xs.getLastD head :=
      fun heq => last_not_in_front (List.nodup_cons.mpr ⟨hhx, hnx⟩) (heq ▸ hx)
    have hyn : y ≠ ys.headD head := by
      rintro rfl
      rcases List.mem_cons.mp (first_mem head ys) with heq | hmem
      · exact hhx (heq ▸ hy)
      · exact hne _ hy _ hmem rfl
    have hx : x ∈ head :: xs := List.dropLast_subset _ hx
    have hy : y ∈ xs := hy
    exact hl x (by grind) y (by grind) hxp hyn hxy
  · have hx : x ∈ ys := by rwa [List.dropLast_concat] at hx
    have hxp : x ≠ xs.getLastD head := by
      rintro rfl
      rcases List.mem_cons.mp (List.getLastD_mem_cons (l := xs) (a := head)) with heq | hmem
      · exact hhy (heq ▸ hx)
      · exact hne _ hmem _ hx rfl
    cases ys with
    | nil => exact absurd hy List.not_mem_nil
    | cons n ys =>
      have hy : y ∈ ys ++ [head] := hy
      have hyn : y ≠ n := by
        rintro rfl
        rcases List.mem_append.mp hy with hmem | hmem
        · exact (List.nodup_cons.mp hny).1 hmem
        · exact hhy (List.mem_singleton.mp hmem ▸ List.mem_cons_self)
      exact hl x (by grind) y (by grind) hxp hyn hxy

lemma join (hxs : (head :: xs).IsChain l.Linked) (hys : (ys ++ [head]).IsChain l.Linked)
    (hgap : l.Linked (xs.getLastD head) (ys.headD head)) : (head :: (xs ++ ys) ++ [head]).IsChain l.Linked := by
  rw [← List.cons_append, List.append_assoc]
  refine List.isChain_append.mpr ⟨hxs, hys, fun x hx y hy => ?_⟩
  rw [List.getLast?_eq_some_getLast (List.cons_ne_nil head xs), List.getLast_eq_getLastD, Option.mem_some_iff] at hx
  rwa [← hx, ← head_of_end hy]

variable [DecidableEq P]

lemma insert (h : Circular l head (xs ++ ys)) (ha : a ∉ head :: (xs ++ ys)) :
    Circular (l.insert a (xs.getLastD head) (ys.headD head)) head (xs ++ a :: ys) := by
  have hp : xs.getLastD head ≠ a := fun heq => ha (heq ▸ last_mem_ring)
  have hn : ys.headD head ≠ a := fun heq => ha (heq ▸ first_mem_ring)
  obtain ⟨hxs, hys, -⟩ := h.parts
  have hsides : (head :: xs).IsChain (l.insert a (xs.getLastD head) (ys.headD head)).Linked ∧
      (ys ++ [head]).IsChain (l.insert a (xs.getLastD head) (ys.headD head)).Linked := sides h.nodup hxs hys
    fun x hx y hy hxp hyn hxy => Links.insert_linked (ne_of_mem_of_not_mem hx ha) (ne_of_mem_of_not_mem hy ha) hxp hyn hxy
  refine ⟨join hsides.1 (List.isChain_cons.mpr ⟨fun y hy => ?_, hsides.2⟩) (Links.insert_left hn), ?_⟩
  · rw [← head_of_end hy]
    exact Links.insert_right hp
  · rw [← List.cons_append, List.nodup_middle]
    exact List.nodup_cons.mpr ⟨ha, h.nodup⟩

lemma remove (h : Circular l head (xs ++ a :: ys)) :
    Circular (l.remove a (xs.getLastD head) (ys.headD head)) head (xs ++ ys) := by
  have hnodup := h.nodup
  rw [← List.cons_append, List.nodup_middle, List.cons_append] at hnodup
  obtain ⟨ha, hnodup⟩ := List.nodup_cons.mp hnodup
  have hp : xs.getLastD head ≠ a := fun heq => ha (heq ▸ last_mem_ring)
  have hn : ys.headD head ≠ a := fun heq => ha (heq ▸ first_mem_ring)
  obtain ⟨hxs, hys, -⟩ := h.parts
  obtain ⟨-, hys⟩ := List.isChain_cons.mp hys
  have hsides : (head :: xs).IsChain (l.remove a (xs.getLastD head) (ys.headD head)).Linked ∧
      (ys ++ [head]).IsChain (l.remove a (xs.getLastD head) (ys.headD head)).Linked := sides hnodup hxs hys
    fun x hx y hy hxp hyn hxy => Links.remove_linked (ne_of_mem_of_not_mem hx ha) (ne_of_mem_of_not_mem hy ha) hxp hyn hxy
  exact ⟨join hsides.1 hsides.2 (Links.remove_gap hp hn), hnodup⟩

end Circular

/-! ### Several lists -/

/-- The lists have no pointer in common, and what is in none of them is not linked. -/
structure Rings {ι : Type*} (l : Links P) (head : ι → P) (nodes : ι → List P) : Prop where
  circular : ∀ i, Circular l (head i) (nodes i)
  apart : ∀ i j p, p ∈ head i :: nodes i → p ∈ head j :: nodes j → i = j
  free : ∀ p, (∀ i, p ∉ head i :: nodes i) → l.next p = none

namespace Rings

variable {ι : Type*} [DecidableEq ι] [DecidableEq P] {heads : ι → P} {lists : ι → List P} {i : ι}

lemma insert (h : Rings l heads lists) (hi : lists i = xs ++ ys) (ha : ∀ j, a ∉ heads j :: lists j) :
    Rings (l.insert a (xs.getLastD (heads i)) (ys.headD (heads i))) heads (Function.update lists i (xs ++ a :: ys)) := by
  have hp : xs.getLastD (heads i) ∈ heads i :: lists i := hi ▸ last_mem_ring
  have hn : ys.headD (heads i) ∈ heads i :: lists i := hi ▸ first_mem_ring
  have hother : ∀ p, p ≠ a → p ∉ heads i :: lists i →
      (l.insert a (xs.getLastD (heads i)) (ys.headD (heads i))).next p = l.next p ∧
        (l.insert a (xs.getLastD (heads i)) (ys.headD (heads i))).prev p = l.prev p :=
    fun p hpa hpi => Links.insert_other hpa (fun heq => hpi (heq ▸ hp)) fun heq => hpi (heq ▸ hn)
  have hmem : ∀ j p, p ∈ heads j :: Function.update lists i (xs ++ a :: ys) j ↔
      p ∈ heads j :: lists j ∨ (p = a ∧ j = i) := by
    intro j p
    by_cases hj : j = i
    · subst hj
      rw [Function.update_self, hi]
      grind
    · rw [Function.update_of_ne hj]
      simp [hj]
  refine ⟨fun j => ?_, fun j k p hj hk => ?_, fun p hfree => ?_⟩
  · by_cases hj : j = i
    · subst hj
      rw [Function.update_self]
      exact (hi ▸ h.circular j).insert (hi ▸ ha j)
    · rw [Function.update_of_ne hj]
      refine (h.circular j).congr fun p hpj => hother p (fun heq => ha j (heq ▸ hpj)) fun hpi => ?_
      exact hj (h.apart j i p hpj hpi)
  · rcases (hmem j p).mp hj with hold | ⟨heq, hji⟩
    · rcases (hmem k p).mp hk with hold' | ⟨heq, -⟩
      · exact h.apart j k p hold hold'
      · exact absurd (heq ▸ hold) (ha j)
    · rcases (hmem k p).mp hk with hold | ⟨-, hki⟩
      · exact absurd (heq ▸ hold) (ha k)
      · rw [hji, hki]
  · have hpa : p ≠ a := fun heq => hfree i ((hmem i p).mpr (.inr ⟨heq, rfl⟩))
    have hpj : ∀ j, p ∉ heads j :: lists j := fun j hj => hfree j ((hmem j p).mpr (.inl hj))
    rw [(hother p hpa (hpj i)).1]
    exact h.free p hpj

lemma remove (h : Rings l heads lists) (hi : lists i = xs ++ a :: ys) :
    Rings (l.remove a (xs.getLastD (heads i)) (ys.headD (heads i))) heads (Function.update lists i (xs ++ ys)) := by
  have hcircular : Circular l (heads i) (xs ++ a :: ys) := hi ▸ h.circular i
  have hnodup := hcircular.nodup
  rw [← List.cons_append, List.nodup_middle, List.cons_append] at hnodup
  obtain ⟨ha, -⟩ := List.nodup_cons.mp hnodup
  have hai : a ∈ heads i :: lists i := by
    rw [hi]
    exact List.mem_cons_of_mem _ (List.mem_append_right _ List.mem_cons_self)
  have hp : xs.getLastD (heads i) ∈ heads i :: lists i := hi ▸ last_mem_ring
  have hn : ys.headD (heads i) ∈ heads i :: lists i := by
    have hmem : ys.headD (heads i) ∈ heads i :: (xs ++ ys) := first_mem_ring
    rw [hi]
    grind
  have hother : ∀ p, p ∉ heads i :: lists i →
      (l.remove a (xs.getLastD (heads i)) (ys.headD (heads i))).next p = l.next p ∧
        (l.remove a (xs.getLastD (heads i)) (ys.headD (heads i))).prev p = l.prev p :=
    fun p hpi => Links.remove_other (fun heq => hpi (heq ▸ hai)) (fun heq => hpi (heq ▸ hp)) fun heq => hpi (heq ▸ hn)
  have hmem : ∀ j p, p ∈ heads j :: Function.update lists i (xs ++ ys) j ↔ p ∈ heads j :: lists j ∧ p ≠ a := by
    intro j p
    by_cases hj : j = i
    · subst hj
      rw [Function.update_self, hi]
      grind
    · rw [Function.update_of_ne hj]
      refine ⟨fun hmem => ⟨hmem, fun heq => hj (h.apart j i a (heq ▸ hmem) hai)⟩, And.left⟩
  refine ⟨fun j => ?_, fun j k p hj hk => ?_, fun p hfree => ?_⟩
  · by_cases hj : j = i
    · subst hj
      rw [Function.update_self]
      exact hcircular.remove
    · rw [Function.update_of_ne hj]
      exact (h.circular j).congr fun p hpj => hother p fun hpi => hj (h.apart j i p hpj hpi)
  · exact h.apart j k p ((hmem j p).mp hj).1 ((hmem k p).mp hk).1
  · by_cases hpa : p = a
    · rw [hpa, Links.remove_self]
    · have hpj : ∀ j, p ∉ heads j :: lists j := fun j hj => hfree j ((hmem j p).mpr ⟨hj, hpa⟩)
      rw [(hother p (hpj i)).1]
      exact h.free p hpj

end Rings

end Ril.Lib
