import Mathlib.Data.List.Basic

/-! Logs that grow at the front, by entries of a kind. -/

namespace Ril.Lib

variable {α β : Type*} {P Q : α → Prop} {l l' l'' : List α}

def Extends (P : α → Prop) (l l' : List α) : Prop := ∃ new, l' = new ++ l ∧ ∀ a ∈ new, P a

namespace Extends

lemma refl (l : List α) : Extends P l l := ⟨[], rfl, fun _ h => absurd h List.not_mem_nil⟩

lemma of_eq (h : l' = l) : Extends P l l' := h ▸ refl l'

lemma cons {a : α} (ha : P a) (h : Extends P l l') : Extends P l (a :: l') := by
  obtain ⟨new, rfl, hn⟩ := h
  refine ⟨a :: new, rfl, ?_⟩
  intro b hb
  rcases List.mem_cons.mp hb with rfl | hb
  · exact ha
  · exact hn b hb

lemma one {a : α} (ha : P a) (l : List α) : Extends P l (a :: l) := .cons ha (.refl l)

lemma trans (h : Extends P l l') (h' : Extends P l' l'') : Extends P l l'' := by
  obtain ⟨new, rfl, hn⟩ := h
  obtain ⟨new', rfl, hn'⟩ := h'
  refine ⟨new' ++ new, (List.append_assoc _ _ _).symm, ?_⟩
  intro b hb
  rcases List.mem_append.mp hb with hb | hb
  · exact hn' b hb
  · exact hn b hb

lemma mono (h : Extends P l l') (hPQ : ∀ a, P a → Q a) : Extends Q l l' := by
  obtain ⟨new, rfl, hn⟩ := h
  exact ⟨new, rfl, fun a ha => hPQ a (hn a ha)⟩

lemma suffix (h : Extends P l l') : l <:+ l' := by
  obtain ⟨new, rfl, -⟩ := h
  exact ⟨new, rfl⟩

lemma mem {a : α} (h : Extends P l l') (ha : a ∈ l') : P a ∨ a ∈ l := by
  obtain ⟨new, rfl, hn⟩ := h
  exact (List.mem_append.mp ha).imp_left (hn a)

/-- What a log has grown by is known from the log. -/
lemma append_iff {new : List α} : Extends P l (new ++ l) ↔ ∀ a ∈ new, P a := by
  constructor
  · rintro ⟨new', h, hn⟩
    rwa [List.append_cancel_right h]
  · exact fun h => ⟨new, rfl, h⟩

end Extends

/-- An entry of a log is the newest one, or stands where it stood. -/
lemma split_cons {later earlier : List α} {a b : α} (h : b :: l = later ++ a :: earlier) :
    (later = [] ∧ a = b ∧ earlier = l) ∨ ∃ later', later = b :: later' ∧ l = later' ++ a :: earlier := by
  cases later with
  | nil =>
    obtain ⟨rfl, rfl⟩ := List.cons.inj h
    exact .inl ⟨rfl, rfl, rfl⟩
  | cons c later =>
    obtain ⟨rfl, hl⟩ := List.cons.inj h
    exact .inr ⟨later, rfl, hl⟩

/-- An entry of a log that has grown is among the new ones, or stands where it stood. -/
lemma split_append {new later earlier : List α} {a : α} (h : new ++ l = later ++ a :: earlier) :
    (∃ mid, new = later ++ a :: mid ∧ earlier = mid ++ l) ∨ ∃ later', l = later' ++ a :: earlier := by
  rcases List.append_eq_append_iff.mp h with ⟨later', -, hl⟩ | ⟨rest, hnew, hrest⟩
  · exact .inr ⟨later', hl⟩
  · cases rest with
    | nil => exact .inr ⟨[], hrest.symm⟩
    | cons b mid =>
      obtain ⟨rfl, rfl⟩ := List.cons.inj hrest
      exact .inl ⟨mid, hnew, rfl⟩

end Ril.Lib

/-! Programs that append to a list of their state and do not look at it, and lists of blocks that are released by
their addresses. -/

namespace Ril.Lib

variable {σ α β γ : Type} {put : List γ → σ → σ}

/-- What is appended, the value and the rest of the state do not depend on the list. -/
def AppendOnly (put : List γ → σ → σ) (m : StateM σ α) : Prop :=
  ∀ s, ∃ new, ∀ list, m (put list s) = ((m s).1, put (list ++ new) (m s).2)

namespace AppendOnly

variable {m n : StateM σ α} {f : α → StateM σ β}

lemma of_silent (h : ∀ s list, m (put list s) = ((m s).1, put list (m s).2)) : AppendOnly put m := by
  intro s
  refine ⟨[], fun list => ?_⟩
  rw [List.append_nil]
  exact h s list

lemma pure (a : α) : AppendOnly put (pure a : StateM σ α) := of_silent fun _ _ => rfl

lemma modify {f : σ → σ} (h : ∀ s list, f (put list s) = put list (f s)) :
    AppendOnly put (modify f : StateM σ PUnit) := of_silent fun s list => Prod.ext rfl (h s list)

lemma bind (hm : AppendOnly put m) (hf : ∀ a, AppendOnly put (f a)) : AppendOnly put (m >>= f) := by
  intro s
  obtain ⟨first, hfirst⟩ := hm s
  obtain ⟨second, hsecond⟩ := hf (m s).1 (m s).2
  refine ⟨first ++ second, fun list => ?_⟩
  have h : (m >>= f) (put list s) = f (m (put list s)).1 (m (put list s)).2 := rfl
  rw [h, hfirst list, hsecond (list ++ first), List.append_assoc]
  rfl

lemma read {f : σ → StateM σ β} (hput : ∀ s list, f (put list s) = f s) (hf : ∀ s, AppendOnly put (f s)) :
    AppendOnly put ((MonadState.get : StateM σ σ) >>= f) := by
  intro s
  obtain ⟨new, hnew⟩ := hf s s
  refine ⟨new, fun list => ?_⟩
  have h : ((MonadState.get : StateM σ σ) >>= f) (put list s) = f (put list s) (put list s) := rfl
  rw [h, hput, hnew list]
  rfl

lemma ite {c : Prop} [Decidable c] (hm : c → AppendOnly put m) (hn : ¬c → AppendOnly put n) :
    AppendOnly put (if c then m else n) := by
  split
  · exact hm ‹_›
  · exact hn ‹_›

end AppendOnly

/-! ### Lists of blocks -/

/-- A block with its address -/
structure Node (α : Type) where
  address : ℕ
  data : α

/-- The list without the block of this address -/
def releaseNode (address : ℕ) (nodes : List (Node α)) : List (Node α) := nodes.eraseP (·.address == address)

/-- The block that was found is the one that is released, whatever has been appended since to blocks of their own. -/
lemma release_found {nodes more older newer : List (Node α)} {node : Node α} (h : nodes = older ++ node :: newer)
    (hn : ((nodes ++ more).map (·.address)).Nodup) :
    releaseNode node.address (nodes ++ more) = older ++ newer ++ more := by
  subst h
  have hnot : ∀ n ∈ older, ¬(n.address == node.address) = true := by
    intro n hn' he
    rw [List.append_assoc, List.map_append, List.nodup_append] at hn
    refine hn.2.2 n.address (List.mem_map_of_mem hn') node.address ?_ (beq_iff_eq.mp he)
    simp
  rw [releaseNode, List.append_assoc, List.eraseP_append_right _ hnot, List.cons_append,
    List.eraseP_cons_of_pos (by simp), List.append_assoc]

end Ril.Lib
