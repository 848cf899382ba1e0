import Mathlib.Data.List.Basic

/-! Runs of a partial transition function whose steps all meet a condition. -/

namespace Ril.Lib

variable {σ α : Type*} {step : σ → α → Option σ} {ok ok' : σ → α → Prop} {init s s' : σ}

/-- The states reached from `init` by steps that meet `ok`. -/
inductive Reaches (step : σ → α → Option σ) (ok : σ → α → Prop) (init : σ) : σ → Prop
  | refl : Reaches step ok init init
  | tail {s s' : σ} {a : α} : Reaches step ok init s → ok s a → step s a = some s' →
      Reaches step ok init s'

namespace Reaches

lemma mono (h : Reaches step ok init s) (himp : ∀ s a, ok s a → ok' s a) :
    Reaches step ok' init s := by
  induction h with
  | refl => exact .refl
  | tail _ ha hs ih => exact .tail ih (himp _ _ ha) hs

lemma trans (h : Reaches step ok init s) (h' : Reaches step ok s s') : Reaches step ok init s' := by
  induction h' with
  | refl => exact h
  | tail _ ha hs ih => exact .tail ih ha hs

/-- An invariant that may use what is already known of the reachable states. -/
lemma invariant {Inv : σ → Prop} (h : Reaches step ok init s) (hi : Inv init)
    (hstep : ∀ s a s', Reaches step ok init s → Inv s → ok s a → step s a = some s' → Inv s') :
    Inv s := by
  induction h with
  | refl => exact hi
  | tail hr ha hs ih => exact hstep _ _ _ hr ih ha hs

end Reaches

/-- The run of a list of actions. -/
def run (step : σ → α → Option σ) (s : σ) : List α → Option σ
  | [] => some s
  | a :: as => (step s a).bind fun s => run step s as

/-- Whether all steps of a run meet a decidable condition. -/
def runMeets (step : σ → α → Option σ) (ok : σ → α → Bool) (s : σ) : List α → Bool
  | [] => true
  | a :: as => ok s a && match step s a with
    | none => true
    | some s => runMeets step ok s as

lemma Reaches.of_run {meets : σ → α → Bool} (as : List α) (hr : run step s as = some s')
    (hm : runMeets step meets s as = true) (hok : ∀ s a, meets s a = true → ok s a) :
    Reaches step ok s s' := by
  induction as generalizing s with
  | nil =>
    obtain rfl : s = s' := by simpa [run] using hr
    exact .refl
  | cons a as ih =>
    cases hs : step s a with
    | none => simp [run, hs] at hr
    | some t =>
      simp only [run, hs, Option.bind_some] at hr
      simp only [runMeets, hs, Bool.and_eq_true] at hm
      exact (Reaches.tail .refl (hok _ _ hm.1) hs).trans (ih hr hm.2)

end Ril.Lib
