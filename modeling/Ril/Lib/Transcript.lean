import Mathlib
import Ril.Lib.Outcome

/-! Programs that add to a transcript and may stop, and the languages of what they add. -/

namespace Ril.Lib

variable {σ ε χ α β : Type} {log : σ → List ε} {m n : ExceptT χ (StateM σ) α} {f : α → ExceptT χ (StateM σ) β}

/-- A run that ends has added a word of the language of its result, and one that stops a word of `F`. -/
def Speaks (log : σ → List ε) (m : ExceptT χ (StateM σ) α) (L : α → Language ε) (F : Language ε) : Prop :=
  ∀ past, Outcome (fun s => log s = past) m (fun a t => ∃ new ∈ L a, log t = past ++ new)
    fun _ t => ∃ new ∈ F, log t = past ++ new

namespace Speaks

variable {L L' : α → Language ε} {N : β → Language ε} {F F' : Language ε}

lemma pure {a : α} (h : [] ∈ L a) : Speaks log (pure a : ExceptT χ (StateM σ) α) L F :=
  fun past => Outcome.pure fun s hs => ⟨[], h, by rw [hs, List.append_nil]⟩

lemma throw {e : χ} (h : [] ∈ F) : Speaks log (throw e : ExceptT χ (StateM σ) α) L F :=
  fun past => Outcome.throw fun s hs => ⟨[], h, by rw [hs, List.append_nil]⟩

/-- What follows a word is what remains of the language behind it. -/
lemma bind (hm : Speaks log m L F) (hF : F ≤ F')
    (hf : ∀ a, ∀ u ∈ L a, Speaks log (f a) (fun b => (N b).leftQuotient u) (F'.leftQuotient u)) :
    Speaks log (m >>= f) N F' := by
  intro past
  refine (((hm past).mono (fun _ h => h) (fun _ _ h => h) ?_).bind fun a => ?_)
  · rintro e t ⟨new, hnew, ht⟩
    exact ⟨new, hF hnew, ht⟩
  · rintro s ⟨new, hnew, hs⟩
    refine (hf a new hnew (log s) s rfl).mono ?_ ?_
    · rintro b t ⟨more, hmore, ht⟩
      exact ⟨new ++ more, hmore, by rw [ht, hs, List.append_assoc]⟩
    · rintro e t ⟨more, hmore, ht⟩
      exact ⟨new ++ more, hmore, by rw [ht, hs, List.append_assoc]⟩

lemma ite {c : Prop} [Decidable c] (hm : c → Speaks log m L F) (hn : ¬c → Speaks log n L F) :
    Speaks log (if c then m else n) L F := by
  split
  · exact hm ‹_›
  · exact hn ‹_›

lemma mono (h : Speaks log m L F) (hL : ∀ a, L a ≤ L' a) (hF : F ≤ F') : Speaks log m L' F' := by
  intro past
  refine (h past).mono (fun _ h => h) ?_ ?_
  · rintro a t ⟨new, hnew, ht⟩
    exact ⟨new, hL a hnew, ht⟩
  · rintro e t ⟨new, hnew, ht⟩
    exact ⟨new, hF hnew, ht⟩

end Speaks

/-! ### Stages, of whose words some letters are put out -/

variable (out : ε → Bool) {L M : Language ε} {Ls : List (Language ε)} {u w : List ε}

/-- What was put out is the beginning of what a word of the language puts out. -/
def begun (L : Language ε) : Language ε := {w | ∃ v ∈ L, w.filter out <+: v.filter out}

structure Stage (log : σ → List ε) (m : ExceptT χ (StateM σ) α) (L : Language ε) : Prop where
  speaks : Speaks log m (fun _ => L) (begun out L)
  word : ∃ w, w ∈ L

/-- Some stages are complete, and the next one is begun. -/
def broken : List (Language ε) → Language ε
  | [] => 0
  | L :: Ls => begun out L + L * broken Ls

variable {out}

lemma nil_mem_begun (h : ∃ w, w ∈ L) : [] ∈ begun out L := h.imp fun _ hw => ⟨hw, List.nil_prefix⟩

lemma begun_mono (h : L ≤ M) : begun out L ≤ begun out M := by
  rintro w ⟨v, hv, hp⟩
  exact ⟨v, h hv, hp⟩

lemma begun_append (hu : u ∈ L) (hw : w ∈ begun out M) : u ++ w ∈ begun out (L * M) := by
  obtain ⟨v, hv, hp⟩ := hw
  refine ⟨u ++ v, Language.append_mem_mul hu hv, ?_⟩
  rw [List.filter_append, List.filter_append]
  exact (List.prefix_append_right_inj _).mpr hp

lemma begun_le_mul (hM : w ∈ M) : begun out L ≤ begun out (L * M) := by
  rintro u ⟨v, hv, hp⟩
  refine ⟨v ++ w, Language.append_mem_mul hv hM, hp.trans ?_⟩
  rw [List.filter_append]
  exact List.prefix_append _ _

namespace Stage

lemma pure {a : α} : Stage out log (pure a : ExceptT χ (StateM σ) α) 1 := ⟨Speaks.pure rfl, [], rfl⟩

lemma throw {e : χ} (h : ∃ w, w ∈ L) : Stage out log (throw e : ExceptT χ (StateM σ) α) L :=
  ⟨Speaks.throw (nil_mem_begun h), h⟩

lemma ite {c : Prop} [Decidable c] (hm : c → Stage out log m L) (hn : ¬c → Stage out log n L) :
    Stage out log (if c then m else n) L := by
  split
  · exact hm ‹_›
  · exact hn ‹_›

lemma mono (hm : Stage out log m L) (h : L ≤ M) : Stage out log m M :=
  ⟨hm.speaks.mono (fun _ => h) (begun_mono h), hm.word.imp fun _ hw => h hw⟩

lemma seq [Nonempty α] (hm : Stage out log m L) (hf : ∀ a, Stage out log (f a) M) :
    Stage out log (m >>= f) (L * M) := by
  obtain ⟨v, hv⟩ := hm.word
  obtain ⟨w, hw⟩ := (hf (Classical.arbitrary α)).word
  refine ⟨hm.speaks.bind (begun_le_mul hw) fun a u hu => ?_, v ++ w, Language.append_mem_mul hv hw⟩
  exact (hf a).speaks.mono (fun _ _ hv => Language.append_mem_mul hu hv) fun _ hv => begun_append hu hv

lemma last (hm : Stage out log m L) : Speaks log m (fun _ => [L].prod) (broken out [L]) := by
  refine hm.speaks.mono (fun _ => ?_) ?_
  · rw [List.prod_singleton]
  · rw [broken, broken, mul_zero, add_zero]

lemma chain (hm : Stage out log m L) (hf : ∀ a, Speaks log (f a) (fun _ => Ls.prod) (broken out Ls)) :
    Speaks log (m >>= f) (fun _ => (L :: Ls).prod) (broken out (L :: Ls)) := by
  refine hm.speaks.bind (fun _ h => .inl h) fun a u hu => ?_
  refine (hf a).mono (fun _ v hv => ?_) fun v hv => .inr (Language.append_mem_mul hu hv)
  rw [List.prod_cons]
  exact Language.append_mem_mul hu hv

end Stage

end Ril.Lib
