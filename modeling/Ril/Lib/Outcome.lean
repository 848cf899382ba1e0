import Mathlib.Data.List.Basic

/-! Rules of pre- and postconditions for programs over a state that may stop. -/

namespace Ril.Lib

variable {σ ε α β : Type} {P P' : σ → Prop} {Q Q' : α → σ → Prop} {E E' : ε → σ → Prop}

inductive EndsIn (Q : α → σ → Prop) (E : ε → σ → Prop) : Except ε α × σ → Prop
  | ok {a : α} {s : σ} (h : Q a s) : EndsIn Q E (.ok a, s)
  | error {e : ε} {s : σ} (h : E e s) : EndsIn Q E (.error e, s)

/-- From the states that meet `P` the program ends in `Q`, or stops in `E`. -/
def Outcome (P : σ → Prop) (m : ExceptT ε (StateM σ) α) (Q : α → σ → Prop) (E : ε → σ → Prop) : Prop :=
  ∀ s, P s → EndsIn Q E (m s)

lemma EndsIn.mono {r : Except ε α × σ} (h : EndsIn Q E r) (hQ : ∀ a s, Q a s → Q' a s)
    (hE : ∀ e s, E e s → E' e s) : EndsIn Q' E' r := by
  cases h with
  | ok h => exact .ok (hQ _ _ h)
  | error h => exact .error (hE _ _ h)

namespace Outcome

variable {m n : ExceptT ε (StateM σ) α} {f : α → ExceptT ε (StateM σ) β} {T : β → σ → Prop}

lemma pure {a : α} (h : ∀ s, P s → Q a s) : Outcome P (pure a) Q E := fun s hs => .ok (h s hs)

lemma throw {e : ε} (h : ∀ s, P s → E e s) : Outcome P (throw e : ExceptT ε (StateM σ) α) Q E :=
  fun s hs => .error (h s hs)

lemma bind (hm : Outcome P m Q E) (hf : ∀ a, Outcome (Q a) (f a) T E) : Outcome P (m >>= f) T E := by
  intro s hs
  have hbind : (m >>= f) s = ExceptT.bindCont f (m s).1 (m s).2 := rfl
  have hends := hm s hs
  rw [hbind]
  generalize m s = r at hends
  cases hends with
  | ok h => exact hf _ _ h
  | error h => exact .error h

lemma modify {f : σ → σ} {Q : PUnit → σ → Prop} (h : ∀ s, P s → Q ⟨⟩ (f s)) :
    Outcome P (modify f : ExceptT ε (StateM σ) PUnit) Q E := fun s hs => .ok (h s hs)

/-- The state that is read may be used from here on. -/
lemma read {f : σ → ExceptT ε (StateM σ) β} (hf : ∀ s, P s → Outcome (fun t => t = s) (f s) T E) :
    Outcome P ((get : ExceptT ε (StateM σ) σ) >>= f) T E := fun s hs => hf s hs s rfl

lemma ite {c : Prop} [Decidable c] (hm : c → Outcome P m Q E) (hn : ¬c → Outcome P n Q E) :
    Outcome P (if c then m else n) Q E := by
  split
  · exact hm ‹_›
  · exact hn ‹_›

lemma mono (h : Outcome P m Q E) (hP : ∀ s, P' s → P s) (hQ : ∀ a s, Q a s → Q' a s)
    (hE : ∀ e s, E e s → E' e s) : Outcome P' m Q' E' := fun s hs => (h s (hP s hs)).mono hQ hE

lemma weaken (h : Outcome P m Q E) (hP : ∀ s, P' s → P s) : Outcome P' m Q E :=
  h.mono hP (fun _ _ h => h) fun _ _ h => h

end Outcome

end Ril.Lib
