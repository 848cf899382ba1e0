import Mathlib.Data.List.Nodup
import Mathlib.Logic.Function.Basic

/-! Doubly linked lists that end with a null pointer. An operation gives nothing where it would follow a pointer to a
node that is not allocated. -/

namespace Ril.Lib

variable {P D : Type*}

structure ListNode (P D : Type*) where
  prev : Option P
  next : Option P
  data : D

/-- The nodes that are allocated -/
abbrev Nodes (P D : Type*) := P → Option (ListNode P D)

namespace Nodes

/-- The nodes from `first` to before `next`; the first of them comes after `prev`. -/
def Segment (nodes : Nodes P D) : Option P → Option P → Option P → List (P × D) → Prop
  | _, first, next, [] => first = next
  | prev, first, next, (p, d) :: rest =>
    first = some p ∧ ∃ following, nodes p = some ⟨prev, following, d⟩ ∧ Segment nodes (some p) following next rest

/-- The last pointer of a list, or the one before it -/
def lastPointer (prev : Option P) (xs : List (P × D)) : Option P := xs.foldl (fun _ x => some x.1) prev

/-- The list from `head` on, with its pointers and data -/
structure Represents (nodes : Nodes P D) (head : Option P) (xs : List (P × D)) : Prop where
  segment : Segment nodes none head none xs
  nodup : (xs.map Prod.fst).Nodup

section

variable [DecidableEq P]

/-- The next pointer of the node is set, unless the pointer to it is null. -/
def linkNext (nodes : Nodes P D) (p next : Option P) : Option (Nodes P D) :=
  match p with
  | none => some nodes
  | some p => (nodes p).map fun node => Function.update nodes p (some { node with next := next })

def linkPrev (nodes : Nodes P D) (p prev : Option P) : Option (Nodes P D) :=
  match p with
  | none => some nodes
  | some p => (nodes p).map fun node => Function.update nodes p (some { node with prev := prev })

end

variable {nodes nodes' : Nodes P D} {prev first next : Option P} {xs ys : List (P × D)} {p q : P} {d : D}

@[simp] lemma lastPointer_cons (x : P × D) : lastPointer prev (x :: xs) = lastPointer (some x.1) xs := rfl

lemma segment_append : Segment nodes prev first next (xs ++ ys) ↔
    ∃ middle, Segment nodes prev first middle xs ∧ Segment nodes (lastPointer prev xs) middle next ys := by
  induction xs generalizing prev first with
  | nil => exact ⟨fun h => ⟨first, rfl, h⟩, fun ⟨_, hfirst, h⟩ => hfirst ▸ h⟩
  | cons x xs ih =>
    constructor
    · rintro ⟨hfirst, following, hnode, hrest⟩
      obtain ⟨middle, hxs, hys⟩ := ih.mp hrest
      exact ⟨middle, ⟨hfirst, following, hnode, hxs⟩, hys⟩
    · rintro ⟨middle, ⟨hfirst, following, hnode, hxs⟩, hys⟩
      exact ⟨hfirst, following, hnode, ih.mpr ⟨middle, hxs, hys⟩⟩

lemma segment_congr (h : Segment nodes prev first next xs) (he : ∀ p ∈ xs.map Prod.fst, nodes' p = nodes p) :
    Segment nodes' prev first next xs := by
  induction xs generalizing prev first with
  | nil => exact h
  | cons x xs ih =>
    obtain ⟨hfirst, following, hnode, hrest⟩ := h
    refine ⟨hfirst, following, (he x.1 (by simp)).trans hnode, ih hrest fun p hp => he p ?_⟩
    exact List.mem_cons_of_mem _ hp

/-- The nodes of a segment are allocated. -/
lemma segment_allocated (h : Segment nodes prev first next xs) (hp : p ∈ xs.map Prod.fst) : nodes p ≠ none := by
  induction xs generalizing prev first with
  | nil => cases hp
  | cons x xs ih =>
    obtain ⟨-, following, hnode, hrest⟩ := h
    rcases List.mem_cons.mp hp with rfl | hp
    · rw [hnode]
      exact Option.some_ne_none _
    · exact ih hrest hp

variable [DecidableEq P]

/-- A new pointer before the first node -/
lemma link_prev_first (h : Segment nodes prev first none ys) (hn : (ys.map Prod.fst).Nodup) (prev' : Option P) :
    ∃ nodes', linkPrev nodes first prev' = some nodes' ∧ Segment nodes' prev' first none ys ∧
      ∀ q ∉ ys.map Prod.fst, nodes' q = nodes q := by
  cases ys with
  | nil =>
    have hfirst : first = none := h
    rw [hfirst]
    exact ⟨nodes, rfl, rfl, fun _ _ => rfl⟩
  | cons y ys =>
    obtain ⟨rfl, following, hnode, hrest⟩ := h
    obtain ⟨hy, -⟩ := List.nodup_cons.mp hn
    refine ⟨Function.update nodes y.1 (some ⟨prev', following, y.2⟩), by rw [linkPrev, hnode]; rfl, ?_, fun q hq => ?_⟩
    · refine ⟨rfl, following, Function.update_self _ _ _, segment_congr hrest fun q hq => ?_⟩
      exact Function.update_of_ne (ne_of_mem_of_not_mem hq hy) _ _
    · exact Function.update_of_ne (ne_of_mem_of_not_mem List.mem_cons_self hq).symm _ _

/-- A new pointer after the last node -/
lemma link_next_last (x : P × D) (h : Segment nodes prev first next (x :: xs)) (hn : ((x :: xs).map Prod.fst).Nodup)
    (next' : Option P) :
    ∃ nodes', linkNext nodes (lastPointer none (x :: xs)) next' = some nodes' ∧ Segment nodes' prev first next' (x :: xs) ∧
      ∀ q ∉ (x :: xs).map Prod.fst, nodes' q = nodes q := by
  induction xs generalizing prev first x with
  | nil =>
    obtain ⟨rfl, following, hnode, hrest⟩ := h
    refine ⟨Function.update nodes x.1 (some ⟨prev, next', x.2⟩), ?_, ?_, fun q hq => ?_⟩
    · rw [lastPointer, List.foldl_cons, List.foldl_nil, linkNext, hnode]
      rfl
    · exact ⟨rfl, next', Function.update_self _ _ _, rfl⟩
    · exact Function.update_of_ne (ne_of_mem_of_not_mem List.mem_cons_self hq).symm _ _
  | cons y ys ih =>
    obtain ⟨rfl, following, hnode, hrest⟩ := h
    obtain ⟨hx, hys⟩ := List.nodup_cons.mp hn
    obtain ⟨nodes', hlink, hseg, hframe⟩ := ih y hrest hys
    refine ⟨nodes', hlink, ⟨rfl, following, (hframe x.1 hx).trans hnode, hseg⟩, fun q hq => hframe q fun hmem => hq ?_⟩
    exact List.mem_cons_of_mem _ hmem

/-! ### A node at the end -/

/-- The node `p` comes behind the last one. -/
def pushBack (nodes : Nodes P D) (last : Option P) (p : P) (d : D) : Option (Nodes P D) :=
  linkNext (Function.update nodes p (some ⟨last, none, d⟩)) last (some p)

theorem represents_push {head : Option P} (h : Represents nodes head xs) (hp : nodes p = none) (d : D) :
    ∃ nodes', pushBack nodes (lastPointer none xs) p d = some nodes' ∧ Represents nodes' (head.or (some p)) (xs ++ [(p, d)]) ∧
      ∀ q ∉ p :: xs.map Prod.fst, nodes' q = nodes q := by
  have hfresh : p ∉ xs.map Prod.fst := fun hmem => segment_allocated h.segment hmem hp
  have hnodup : ((xs ++ [(p, d)]).map Prod.fst).Nodup := by
    rw [List.map_append, List.map_singleton]
    refine List.nodup_append.mpr ⟨h.nodup, List.nodup_singleton p, fun a ha b hb => ?_⟩
    rw [List.mem_singleton.mp hb]
    exact ne_of_mem_of_not_mem ha hfresh
  let added := Function.update nodes p (some ⟨lastPointer none xs, none, d⟩)
  have hkept : Segment added none head none xs := by
    refine segment_congr h.segment fun q hq => ?_
    exact Function.update_of_ne (ne_of_mem_of_not_mem hq hfresh) _ _
  cases xs with
  | nil =>
    have hhead : head = none := h.segment
    rw [hhead]
    refine ⟨added, rfl, ⟨⟨rfl, none, Function.update_self _ _ _, rfl⟩, hnodup⟩, fun q hq => ?_⟩
    exact Function.update_of_ne (ne_of_mem_of_not_mem List.mem_cons_self hq).symm _ _
  | cons x xs =>
    obtain ⟨nodes', hlink, hseg, hframe⟩ := link_next_last x hkept h.nodup (some p)
    have hhead : head.or (some p) = head := by
      rw [h.segment.1]
      rfl
    rw [hhead]
    refine ⟨nodes', hlink, ⟨segment_append.mpr ⟨some p, hseg, rfl, none, ?_, rfl⟩, hnodup⟩, fun q hq => ?_⟩
    · rw [hframe p hfresh]
      exact Function.update_self _ _ _
    · rw [List.mem_cons, not_or] at hq
      rw [hframe q hq.2]
      exact Function.update_of_ne hq.1 _ _

/-! ### A node that goes -/

/-- The neighbours of `p` are linked, and `p` is freed. Its pointers are read again after the first link. -/
def unlink (nodes : Nodes P D) (p : P) : Option (Nodes P D) :=
  (nodes p).bind fun node => (linkPrev nodes node.next node.prev).bind fun nodes =>
    (nodes p).bind fun node => (linkNext nodes node.prev node.next).map fun nodes => Function.update nodes p none

theorem represents_unlink {head : Option P} (h : Represents nodes head (xs ++ (p, d) :: ys)) :
    ∃ node nodes', nodes p = some node ∧ node.data = d ∧ unlink nodes p = some nodes' ∧
      Represents nodes' (if head = some p then node.next else head) (xs ++ ys) ∧ nodes' p = none ∧
      ∀ q ∉ (xs ++ (p, d) :: ys).map Prod.fst, nodes' q = nodes q := by
  obtain ⟨middle, hxs, rfl, following, hnode, hys⟩ := segment_append.mp h.segment
  have hnodup := h.nodup
  rw [List.map_append, List.map_cons] at hnodup
  obtain ⟨hnx, hnpy, hdisjoint⟩ := List.nodup_append.mp hnodup
  obtain ⟨hpy, hny⟩ := List.nodup_cons.mp hnpy
  have hpx : p ∉ xs.map Prod.fst := fun hmem => hdisjoint p hmem p List.mem_cons_self rfl
  -- the node behind `p` gets the pointer to the one before it
  obtain ⟨nodes₁, hlink₁, hys₁, hframe₁⟩ := link_prev_first hys hny (lastPointer none xs)
  have hnode₁ : nodes₁ p = some ⟨lastPointer none xs, following, d⟩ := (hframe₁ p hpy).trans hnode
  have hxs₁ : Segment nodes₁ none head (some p) xs := by
    refine segment_congr hxs fun q hq => hframe₁ q fun hmem => ?_
    exact hdisjoint q hq q (List.mem_cons_of_mem _ hmem) rfl
  have hdis : ∀ q ∈ ys.map Prod.fst, q ∉ xs.map Prod.fst := fun q hq hmem =>
    hdisjoint q hmem q (List.mem_cons_of_mem _ hq) rfl
  have hnodup' : ((xs ++ ys).map Prod.fst).Nodup := by
    rw [List.map_append]
    exact List.nodup_append.mpr ⟨hnx, hny, fun a ha b hb => ne_of_mem_of_not_mem ha (hdis b hb)⟩
  -- the node before it gets the pointer to the one behind it
  obtain ⟨nodes₂, hlink₂, hxs₂, hframe₂⟩ : ∃ nodes₂, linkNext nodes₁ (lastPointer none xs) following = some nodes₂ ∧
      Segment nodes₂ none (if head = some p then following else head) following xs ∧
      ∀ q ∉ xs.map Prod.fst, nodes₂ q = nodes₁ q := by
    cases xs with
    | nil =>
      have hhead : head = some p := hxs
      rw [if_pos hhead]
      exact ⟨nodes₁, rfl, rfl, fun _ _ => rfl⟩
    | cons x xs =>
      have hhead : head ≠ some p := by
        rw [hxs.1]
        exact fun heq => hpx (Option.some.inj heq ▸ List.mem_cons_self)
      rw [if_neg hhead]
      exact link_next_last x hxs₁ hnx following
  have hys₂ : Segment nodes₂ (lastPointer none xs) following none ys := segment_congr hys₁ fun q hq => hframe₂ q (hdis q hq)
  have hfreed : ∀ q ≠ p, Function.update nodes₂ p none q = nodes₂ q := fun q hq => Function.update_of_ne hq _ _
  refine ⟨_, Function.update nodes₂ p none, hnode, rfl, ?_, ⟨segment_append.mpr ⟨following, ?_, ?_⟩, hnodup'⟩,
    Function.update_self _ _ _, fun q hq => ?_⟩
  · rw [unlink, hnode, Option.bind_some, hlink₁, Option.bind_some, hnode₁, Option.bind_some, hlink₂, Option.map_some]
  · exact segment_congr hxs₂ fun q hq => hfreed q (ne_of_mem_of_not_mem hq hpx)
  · exact segment_congr hys₂ fun q hq => hfreed q (ne_of_mem_of_not_mem hq hpy)
  · rw [List.map_append, List.mem_append, List.map_cons, List.mem_cons, not_or, not_or] at hq
    rw [hfreed q hq.2.1, hframe₂ q hq.1, hframe₁ q hq.2.2]

end Nodes

end Ril.Lib
