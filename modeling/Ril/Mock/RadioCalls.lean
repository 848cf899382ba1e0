import Ril.Lib.Sweep
import Ril.Mock.SimulatedRadio

/-! What the handlers of the simulated radio do to the calls: a handler that walks over the table sweeps the list of the
calls. -/

namespace Ril.Mock.Radio

open Lib

variable {r r' : Radio} {i j : ℕ} {c d : RilCall}

/-- The calls are counted, and each is stored at its own index. -/
structure WellIndexed (r : Radio) : Prop where
  counted : r.numberActiveCalls = r.currentCalls.length
  own : ∀ i c, r.call i = some c → c.index = i ∧ 1 ≤ i ∧ i ≤ maxNumberActiveCalls

lemma call_eq_some : r.call i = some c ↔ r.calls[i]? = some (some c) := Option.join_eq_some_iff

lemma call_lt (h : r.call i = some c) : i < r.calls.length := (List.getElem?_eq_some_iff.mp (call_eq_some.mp h)).1

lemma mem_current_calls : c ∈ r.currentCalls ↔ ∃ i, r.call i = some c := by
  rw [currentCalls, mem_entries_iff]
  exact exists_congr fun i => call_eq_some.symm

@[simp] lemma get_call_natCast : r.getCall i = r.call i := by simp [getCall]

lemma get_call_some {index : ℤ} (h : r.getCall index = some c) : ∃ i : ℕ, index = i ∧ r.call i = some c := by
  unfold getCall at h
  split at h
  next hi => exact ⟨index.toNat, (Int.toNat_of_nonneg hi).symm, h⟩
  next => cases h

lemma WellIndexed.pos (h : WellIndexed r) (hc : r.call i = some c) : 0 < r.numberActiveCalls := by
  rw [h.counted]
  exact List.length_pos_of_mem (mem_current_calls.mpr ⟨i, hc⟩)

lemma initial_well_indexed : WellIndexed {} where
  counted := rfl
  own i c h := by
    have hc : (some c : Option RilCall) ∈ List.replicate (maxNumberActiveCalls + 1) none :=
      List.mem_of_getElem? (call_eq_some.mp h)
    simp at hc

/-! ### One call -/

/-- What is left when the call in slot `i` has become `o` -/
structure Visited (r r' : Radio) (i : ℕ) (o : Option RilCall) : Prop where
  wellIndexed : WellIndexed r'
  upTo : (r'.calls.take (i + 1)).reduceOption = (r.calls.take i).reduceOption ++ o.toList
  after : (r'.calls.drop (i + 1)).reduceOption = (r.calls.drop (i + 1)).reduceOption
  length : r'.calls.length ≤ r.calls.length
  flag : r'.incomingCallIsProcessed = r.incomingCallIsProcessed ∨ o = none

lemma Visited.current_calls {o : Option RilCall} (h : Visited r r' i o) :
    r'.currentCalls = (r.calls.take i).reduceOption ++ o.toList ++ (r.calls.drop (i + 1)).reduceOption := by
  rw [currentCalls, entries_split (i + 1), h.upTo, h.after]

lemma current_calls_at (hc : r.call i = some c) :
    r.currentCalls = (r.calls.take i).reduceOption ++ c :: (r.calls.drop (i + 1)).reduceOption := by
  rw [currentCalls, entries_split i, entries_drop (call_eq_some.mp hc)]
  rfl

lemma visited_kept (h : WellIndexed r) (hc : r.call i = some c) : Visited r r i (some c) where
  wellIndexed := h
  upTo := entries_take_succ (call_eq_some.mp hc)
  after := rfl
  length := Nat.le_refl _
  flag := .inl rfl

lemma call_set {o : Option RilCall} (hi : i < r.calls.length) :
    ({ r with calls := r.calls.set i o } : Radio).call j = if j = i then o else r.call j := by
  by_cases hji : j = i
  · subst hji
    simp [call, hi]
  · simp [call, hji, List.getElem?_set_ne (Ne.symm hji)]

lemma set_visited {o : Option RilCall} {number : ℕ} (h : WellIndexed r) (hc : r.call i = some c)
    (hn : number + 1 = r.numberActiveCalls + o.toList.length) (ho : ∀ d, o = some d → d.index = c.index) :
    Visited r { r with calls := r.calls.set i o, numberActiveCalls := number } i o where
  wellIndexed := {
    counted := by
      have hlen : r.numberActiveCalls =
          (r.calls.take i).reduceOption.length + ((r.calls.drop (i + 1)).reduceOption.length + 1) := by
        rw [h.counted, current_calls_at hc, List.length_append, List.length_cons]
      rw [currentCalls, entries_split (i + 1), entries_take_set (call_lt hc), drop_set_succ]
      simp only [List.length_append]
      omega
    own := fun j d hd => by
      have hj := (call_set (o := o) (call_lt hc)).symm.trans hd
      split at hj
      next hji =>
        rw [ho d hj, hji]
        exact h.own i c hc
      next => exact h.own j d hj }
  upTo := entries_take_set (call_lt hc)
  after := by rw [drop_set_succ]
  length := Nat.le_of_eq List.length_set
  flag := .inl rfl

lemma set_state_visited {state : CallState} (h : WellIndexed r) (hc : r.call i = some c) :
    Visited r (r.setState i c state) i (some { c with state := state }) := by
  refine set_visited h hc rfl fun d hd => ?_
  rw [← Option.some.inj hd]

lemma remove_call_none {index : ℤ} (h : r.getCall index = none) : r.removeCall index = (none, r) := by
  simp [removeCall, h]

/-- Where the table is replaced, no other call was in it. -/
lemma remove_call_visited (h : WellIndexed r) (hc : r.call i = some c) :
    ∃ r', r.removeCall i = (some c, r') ∧ Visited r r' i none := by
  have hpos : 0 < r.numberActiveCalls := h.pos hc
  have hv : Visited r { r with calls := r.calls.set i none, numberActiveCalls := r.numberActiveCalls - 1 } i none :=
    set_visited h hc (by simp; omega) nofun
  simp only [removeCall, hpos, if_true, get_call_natCast, hc, Int.toNat_natCast]
  refine ⟨_, rfl, ?_⟩
  split
  next hz =>
    have hempty : (r.calls.take i).reduceOption ++ [] ++ (r.calls.drop (i + 1)).reduceOption = [] := by
      have hl := hv.wellIndexed.counted.symm.trans hz
      rw [hv.current_calls] at hl
      exact List.length_eq_zero_iff.mp hl
    obtain ⟨hb, ha⟩ := List.append_eq_nil_iff.mp hempty
    exact {
      wellIndexed := ⟨hz, fun j d hd => by simp [call] at hd⟩
      upTo := by simpa using hb.symm
      after := by simpa using ha.symm
      length := Nat.zero_le _
      flag := .inl rfl }
  next => exact hv

/-! ### The walk -/

/-- `visit` does to the call of a slot what `becomes` says: `none` where the request fails, `some none` where the call
goes. -/
def Visits (becomes : RilCall → Option (Option RilCall)) (visit : ℕ → RilCall → Radio → Option Radio) : Prop :=
  ∀ r i c, WellIndexed r → r.call i = some c →
    match becomes c with
    | none => visit i c r = none
    | some o => ∃ r', visit i c r = some r' ∧ Visited r r' i o

variable {becomes : RilCall → Option (Option RilCall)} {visit : ℕ → RilCall → Radio → Option Radio} {rounds : ℕ}

/-- What a walk from slot `i` on leaves -/
structure Walked (becomes : RilCall → Option (Option RilCall)) (i : ℕ) (r : Radio) (w : Radio × Bool) : Prop where
  wellIndexed : WellIndexed w.1
  calls : w.1.currentCalls =
    (r.calls.take i).reduceOption ++ (sweep becomes (r.calls.drop i).reduceOption).1
  finished : w.2 = (sweep becomes (r.calls.drop i).reduceOption).2
  flag : w.1.incomingCallIsProcessed = r.incomingCallIsProcessed ∨ w.1.currentCalls.length < r.currentCalls.length

lemma walked_empty (hn : r.calls[i]? = some none) {w : Radio × Bool} (hw : Walked becomes (i + 1) r w) :
    Walked becomes i r w := by
  have ht := entries_take_succ hn
  have hd := entries_drop hn
  simp only [Option.toList_none, List.append_nil, List.nil_append] at ht hd
  exact ⟨hw.wellIndexed, by rw [hw.calls, ht, hd], by rw [hw.finished, hd], hw.flag⟩

lemma walked_visited {o : Option RilCall} {w : Radio × Bool} (hc : r.call i = some c) (hb : becomes c = some o)
    (hv : Visited r r' i o) (hw : Walked becomes (i + 1) r' w) : Walked becomes i r w := by
  have hd : (r.calls.drop i).reduceOption = c :: (r.calls.drop (i + 1)).reduceOption := entries_drop (call_eq_some.mp hc)
  refine ⟨hw.wellIndexed, ?_, ?_, ?_⟩
  · rw [hw.calls, hv.upTo, hv.after, hd, sweep_visited hb, List.append_assoc]
  · rw [hw.finished, hv.after, hd, sweep_visited hb]
  · have hle : w.1.currentCalls.length ≤ r'.currentCalls.length := by
      have hsplit : r'.currentCalls = _ := entries_split (i + 1)
      rw [hw.calls, hsplit, List.length_append, List.length_append]
      exact Nat.add_le_add_left sweep_length _
    have hlen : r'.currentCalls.length + 1 = r.currentCalls.length + o.toList.length := by
      rw [hv.current_calls, current_calls_at hc]
      simp only [List.length_append, List.length_cons]
      omega
    rcases hv.flag with hf | rfl
    · rcases hw.flag with hf' | hlt
      · exact .inl (hf'.trans hf)
      · have ho : o.toList.length ≤ 1 := Option.length_toList_le
        exact .inr (by omega)
    · exact .inr (by simp at hlen; omega)

lemma walked_end (h : WellIndexed r) (hi : r.calls.length ≤ i) : Walked becomes i r (r, true) := by
  refine ⟨h, ?_, ?_, .inl rfl⟩
  · rw [List.drop_eq_nil_of_le hi, List.take_of_length_le hi]
    exact (List.append_nil _).symm
  · rw [List.drop_eq_nil_of_le hi]
    rfl

lemma walked_refused (h : WellIndexed r) (hc : r.call i = some c) (hb : becomes c = none) :
    Walked becomes i r (r, false) := by
  have hd : (r.calls.drop i).reduceOption = c :: (r.calls.drop (i + 1)).reduceOption := entries_drop (call_eq_some.mp hc)
  refine ⟨h, ?_, ?_, .inl rfl⟩
  · rw [hd, sweep_refused hb, current_calls_at hc]
  · rw [hd, sweep_refused hb]

/-- The loop over the table is a sweep of the list of the calls: by induction on the rounds. -/
lemma walk_calls_walked (hv : Visits becomes visit) (h : WellIndexed r) (hl : r.calls.length ≤ i + rounds) :
    Walked becomes i r (walkCalls visit rounds i r) := by
  induction rounds generalizing i r with
  | zero => exact walked_end h hl
  | succ rounds ih =>
    unfold walkCalls
    split
    next hi =>
      cases hc : r.call i with
      | none =>
        have hn : r.calls[i]? = some none := by
          rw [List.getElem?_eq_getElem hi]
          simpa [call, List.getElem?_eq_getElem hi] using hc
        exact walked_empty hn (ih h (by omega))
      | some c =>
        have hvc := hv r i c h hc
        cases hb : becomes c with
        | none =>
          simp only [hb] at hvc
          simp only [hvc]
          exact walked_refused h hc hb
        | some o =>
          simp only [hb] at hvc
          obtain ⟨r', hr', hvis⟩ := hvc
          have hle : r'.calls.length ≤ r.calls.length := hvis.length
          simp only [hr']
          exact walked_visited hc hb hvis (ih hvis.wellIndexed (by omega))
    next hi => exact walked_end h (Nat.le_of_not_lt hi)

end Ril.Mock.Radio
