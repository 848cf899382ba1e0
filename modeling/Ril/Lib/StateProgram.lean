import Mathlib.Data.List.Basic
import Mathlib.Logic.Relation

/-! Rules of pre- and postconditions for programs over a state. -/

namespace Ril.Lib

variable {σ α β : Type} {P P' R : σ → Prop} {Q Q' : α → σ → Prop}

/-- From the states that meet `P` the program ends with a result and a state that meet `Q`. -/
def Triple (P : σ → Prop) (m : StateM σ α) (Q : α → σ → Prop) : Prop := ∀ s, P s → Q (m s).1 (m s).2

namespace Triple

variable {m n : StateM σ α} {f : α → StateM σ β} {T : β → σ → Prop}

lemma pure {a : α} (h : ∀ s, P s → Q a s) : Triple P (pure a) Q := h

lemma bind (hm : Triple P m Q) (hf : ∀ a, Triple (Q a) (f a) T) : Triple P (m >>= f) T :=
  fun s hs => hf _ _ (hm s hs)

lemma modify {f : σ → σ} {Q : PUnit → σ → Prop} (h : ∀ s, P s → Q ⟨⟩ (f s)) : Triple P (modify f) Q := h

/-- The state that is read may be used from here on. -/
lemma read {f : σ → StateM σ β} (hf : ∀ s, P s → Triple (fun t => t = s) (f s) T) :
    Triple P ((MonadState.get : StateM σ σ) >>= f) T := fun s hs => hf s hs s rfl

lemma ite {c : Prop} [Decidable c] (hm : c → Triple P m Q) (hn : ¬c → Triple P n Q) :
    Triple P (if c then m else n) Q := by
  split
  · exact hm ‹_›
  · exact hn ‹_›

lemma mono (h : Triple P m Q) (hP : ∀ s, P' s → P s) (hQ : ∀ a s, Q a s → Q' a s) : Triple P' m Q' :=
  fun s hs => hQ _ _ (h s (hP s hs))

lemma weaken (h : Triple P m Q) (hP : ∀ s, P' s → P s) : Triple P' m Q := h.mono hP fun _ _ h => h

end Triple

end Ril.Lib

/-! Programs over a state seen as sequences of permitted operations. -/

namespace Ril.Lib

open Relation

variable {σ Op α β : Type} {exec : Op → σ → σ} {A B : σ → Op → Prop} {s t : σ}

/-- One operation that is permitted in the state it starts from. -/
def Does (exec : Op → σ → σ) (A : σ → Op → Prop) (s t : σ) : Prop := ∃ op, A s op ∧ t = exec op s

/-- A sequence of permitted operations. -/
abbrev Path (exec : Op → σ → σ) (A : σ → Op → Prop) : σ → σ → Prop := ReflTransGen (Does exec A)

namespace Path

lemma single (op : Op) (h : A s op) : Path exec A s (exec op s) :=
  ReflTransGen.single ⟨op, h, rfl⟩

lemma mono (h : Path exec A s t) (hAB : ∀ s op, A s op → B s op) : Path exec B s t :=
  ReflTransGen.mono (fun _ _ ⟨op, ha, ht⟩ => ⟨op, hAB _ op ha, ht⟩) _ _ h

/-- What every permitted operation preserves holds at the end of the sequence. -/
lemma invariant {I : σ → Prop} (h : Path exec A s t) (hs : I s)
    (hstep : ∀ s op, I s → A s op → I (exec op s)) : I t := by
  induction h with
  | refl => exact hs
  | tail _ hd ih =>
    obtain ⟨op, ha, rfl⟩ := hd
    exact hstep _ _ ih ha

lemma frame {f : σ → β} (h : Path exec A s t) (hstep : ∀ s op, A s op → f (exec op s) = f s) :
    f t = f s := by
  induction h with
  | refl => rfl
  | tail _ hd ih =>
    obtain ⟨op, ha, rfl⟩ := hd
    exact (hstep _ _ ha).trans ih

end Path

/-- A program that does nothing but permitted operations. -/
def Performs (exec : Op → σ → σ) (A : σ → Op → Prop) (m : StateM σ α) : Prop :=
  ∀ s, Path exec A s (m s).2

namespace Performs

variable {m : StateM σ α} {f : α → StateM σ β}

lemma pure (a : α) : Performs exec A (pure a : StateM σ α) := fun _ => .refl

lemma bind (hm : Performs exec A m) (hf : ∀ a, Performs exec A (f a)) : Performs exec A (m >>= f) :=
  fun s => (hm s).trans (hf (m s).1 (m s).2)

lemma read {f : σ → StateM σ β} (hf : ∀ s, Performs exec A (f s)) :
    Performs exec A ((MonadState.get : StateM σ σ) >>= f) := fun s => hf s s

lemma modify (op : Op) (h : ∀ s, A s op) : Performs exec A (modify (exec op) : StateM σ PUnit) :=
  fun s => Path.single op (h s)

lemma ite {c : Prop} [Decidable c] {n : StateM σ α} (hm : c → Performs exec A m)
    (hn : ¬c → Performs exec A n) : Performs exec A (if c then m else n) := by
  split
  · exact hm ‹_›
  · exact hn ‹_›

lemma mono (h : Performs exec A m) (hAB : ∀ s op, A s op → B s op) : Performs exec B m :=
  fun s => Path.mono (h s) hAB

end Performs

/-- The same from the states that meet a condition. -/
def PerformsFrom (exec : Op → σ → σ) (A : σ → Op → Prop) (P : σ → Prop) (m : StateM σ α) : Prop :=
  ∀ s, P s → Path exec A s (m s).2

namespace PerformsFrom

variable {m : StateM σ α} {f : α → StateM σ β} {P : σ → Prop}

lemma of_performs (h : Performs exec A m) : PerformsFrom exec A P m := fun s _ => h s

/-- The condition still holds after a program whose operations keep it. -/
lemma bind (hm : Performs exec B m) (hA : ∀ s op, B s op → A s op)
    (hP : ∀ s op, P s → B s op → P (exec op s)) (hf : ∀ a, PerformsFrom exec A P (f a)) :
    PerformsFrom exec A P (m >>= f) :=
  fun s hs => (Path.mono (hm s) hA).trans (hf (m s).1 (m s).2 (Path.invariant (hm s) hs hP))

lemma andThen (hm : PerformsFrom exec A P m) (hf : ∀ a, Performs exec A (f a)) :
    PerformsFrom exec A P (m >>= f) :=
  fun s hs => (hm s hs).trans (hf (m s).1 (m s).2)

lemma read {f : σ → StateM σ β} (hf : ∀ s, P s → PerformsFrom exec A (fun t => t = s) (f s)) :
    PerformsFrom exec A P ((MonadState.get : StateM σ σ) >>= f) := fun s hs => hf s hs s rfl

lemma mono {Q : σ → Prop} (h : PerformsFrom exec A P m) (hQ : ∀ s, Q s → P s) : PerformsFrom exec A Q m :=
  fun s hs => h s (hQ s hs)

lemma modify (op : Op) (h : ∀ s, P s → A s op) :
    PerformsFrom exec A P (modify (exec op) : StateM σ PUnit) :=
  fun s hs => Path.single op (h s hs)

lemma ite {c : Prop} [Decidable c] {n : StateM σ α} (hm : c → PerformsFrom exec A P m)
    (hn : ¬c → PerformsFrom exec A P n) : PerformsFrom exec A P (if c then m else n) := by
  split
  · exact hm ‹_›
  · exact hn ‹_›

end PerformsFrom

lemma Performs.read_from {f : σ → StateM σ β}
    (hf : ∀ s, PerformsFrom exec A (fun t => t = s) (f s)) :
    Performs exec A ((MonadState.get : StateM σ σ) >>= f) := fun s => hf s s rfl

end Ril.Lib
