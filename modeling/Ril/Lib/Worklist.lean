import Mathlib.Data.List.Nodup

/-! A loop that takes the first element of a list that is ready, until none is: the list is searched
from its head again each time, and what is done to an element may take others out of the list. -/

namespace Ril.Lib

variable {σ α κ : Type*} (items : σ → List α) (ready : α → Bool) (process : ℕ → α → σ → σ)

/-- The elements taken, in order, and the last state; `n` elements were taken before. -/
def drain : ℕ → ℕ → σ → Option (List α × σ)
  | _, 0, _ => none
  | n, fuel + 1, s =>
    match (items s).find? ready with
    | none => some ([], s)
    | some a => (drain (n + 1) fuel (process n a s)).map fun r => (a :: r.1, r.2)

/-- `a` was taken from `as`: what is left of it is settled, and some of the other elements are left. -/
def Processed [DecidableEq κ] (key : α → κ) (ready : α → Bool) (settled : α → Prop) (as : List α) (a : α)
    (as' : List α) : Prop :=
  ∃ kept : List α, ∃ settle : α → α, kept.Sublist as ∧
    (∀ b ∈ kept, key b = key a → key (settle b) = key b ∧ ready (settle b) = false ∧ settled (settle b)) ∧
    as' = kept.map fun b => if key b = key a then settle b else b

/-- The other elements that are ready are left. -/
def Keeps (key : α → κ) (ready : α → Bool) (as : List α) (a : α) (as' : List α) : Prop :=
  ∀ b ∈ as, ready b = true → key b ≠ key a → b ∈ as'

section

variable {ready : α → Bool}

lemma filter_of_sublist {as bs : List α} {p : α → Bool} (h : as.Sublist bs) (hn : bs.Nodup)
    (hp : ∀ b ∈ bs, p b = true → b ∈ as) : as.filter p = bs.filter p := by
  induction h with
  | slnil => rfl
  | @cons as bs b h ih =>
    obtain ⟨hb, hn⟩ := List.nodup_cons.mp hn
    have hnot : ¬ p b = true := fun hpb => hb (h.subset (hp b List.mem_cons_self hpb))
    rw [List.filter_cons_of_neg hnot]
    exact ih hn fun b' hb' hpb' => hp b' (List.mem_cons_of_mem _ hb') hpb'
  | @cons_cons as bs b h ih =>
    obtain ⟨hb, hn⟩ := List.nodup_cons.mp hn
    have hrest : as.filter p = bs.filter p := by
      apply ih hn
      intro b' hb' hpb'
      refine (List.mem_cons.mp (hp b' (List.mem_cons_of_mem _ hb') hpb')).resolve_left ?_
      rintro rfl
      exact hb hb'
    simp [List.filter_cons, hrest]

variable [DecidableEq κ] {key : α → κ} {settled : α → Prop} {as as' : List α} {a : α}

lemma filter_of_find (hn : (as.map key).Nodup) (hf : as.find? ready = some a) :
    as.filter ready = a :: as.filter fun b => ready b && decide (key b ≠ key a) := by
  induction as with
  | nil => simp at hf
  | cons b as ih =>
    obtain ⟨hb, hn⟩ := List.nodup_cons.mp hn
    cases hr : ready b with
    | true =>
      obtain rfl : b = a := by simpa [hr] using hf
      have hrest : as.filter (fun b' => ready b' && decide (key b' ≠ key b)) = as.filter ready := by
        apply List.filter_congr
        intro b' hb'
        have hne : key b' ≠ key b := fun he => hb (he ▸ List.mem_map_of_mem hb')
        simp [hne]
      simp only [List.filter_cons, hr, if_true, hrest]
      simp
    | false =>
      have hf' : as.find? ready = some a := by simpa [hr] using hf
      simp [hr, ih hn hf']

namespace Processed

lemma keys (h : Processed key ready settled as a as') : (as'.map key).Sublist (as.map key) := by
  obtain ⟨kept, settle, hk, hs, rfl⟩ := h
  have he : (kept.map fun b => if key b = key a then settle b else b).map key = kept.map key := by
    rw [List.map_map]
    apply List.map_congr_left
    intro b hb
    rw [Function.comp_apply]
    split
    · rename_i hkey
      exact (hs b hb hkey).1
    · rfl
  rw [he]
  exact hk.map key

lemma settles (h : Processed key ready settled as a as') (hs : ∀ b ∈ as, ready b = false → settled b) :
    ∀ b ∈ as', ready b = false → settled b := by
  obtain ⟨kept, settle, hk, hset, rfl⟩ := h
  intro b hb hr
  obtain ⟨b', hb', rfl⟩ := List.mem_map.mp hb
  by_cases hkey : key b' = key a
  · simp only [if_pos hkey]
    exact (hset b' hb' hkey).2.2
  · simp only [if_neg hkey] at hr ⊢
    exact hs b' (hk.subset hb') hr

lemma filter_eq {kept : List α} {settle : α → α}
    (hs : ∀ b ∈ kept, key b = key a → key (settle b) = key b ∧ ready (settle b) = false ∧ settled (settle b)) :
    (kept.map fun b => if key b = key a then settle b else b).filter ready =
      kept.filter fun b => ready b && decide (key b ≠ key a) := by
  induction kept with
  | nil => rfl
  | cons b kept ih =>
    have ih := ih fun b' hb' => hs b' (List.mem_cons_of_mem _ hb')
    by_cases hkey : key b = key a
    · have hr := (hs b List.mem_cons_self hkey).2.1
      simp [hkey, hr, ih]
    · simp [List.filter_cons, hkey, ih]

lemma ready_sublist (h : Processed key ready settled as a as') (hn : (as.map key).Nodup)
    (hf : as.find? ready = some a) : (a :: as'.filter ready).Sublist (as.filter ready) := by
  obtain ⟨kept, settle, hk, hs, rfl⟩ := h
  rw [filter_eq hs, filter_of_find hn hf]
  exact (hk.filter _).cons_cons a

lemma ready_eq (h : Processed key ready settled as a as') (hn : (as.map key).Nodup) (hf : as.find? ready = some a)
    (hkeeps : Keeps key ready as a as') : a :: as'.filter ready = as.filter ready := by
  obtain ⟨kept, settle, hk, hs, rfl⟩ := h
  rw [filter_eq hs, filter_of_find hn hf, filter_of_sublist hk hn.of_map]
  intro b hb hp
  obtain ⟨hr, hne⟩ : ready b = true ∧ key b ≠ key a := by simpa using hp
  obtain ⟨b', hb', he⟩ := List.mem_map.mp (hkeeps b hb hr hne)
  by_cases hkey : key b' = key a
  · rw [if_pos hkey] at he
    have hr' := (hs b' hb' hkey).2.1
    rw [he, hr] at hr'
    exact absurd hr' (by simp)
  · rw [if_neg hkey] at he
    exact he ▸ hb'

lemma gone (h : Processed key ready settled as a as') (hn : (as.map key).Nodup) {b : α} (hb : b ∈ as)
    (hne : key b ≠ key a) (hnot : b ∉ as') : key b ∉ as'.map key := by
  obtain ⟨kept, settle, hk, hs, rfl⟩ := h
  intro hmem
  obtain ⟨c, hc, hkey⟩ := List.mem_map.mp hmem
  obtain ⟨b', hb', rfl⟩ := List.mem_map.mp hc
  by_cases hka : key b' = key a
  · rw [if_pos hka, (hs b' hb' hka).1] at hkey
    exact hne (hkey.symm.trans hka)
  · rw [if_neg hka] at hkey
    obtain rfl : b' = b := List.inj_on_of_nodup_map hn (hk.subset hb') hb hkey
    refine hnot (List.mem_map.mpr ⟨b', hb', ?_⟩)
    exact if_neg hka

end Processed

end

section

variable {items ready process} [DecidableEq κ] {key : α → κ} {settled : α → Prop} {Inv : σ → Prop}

/-- Which elements were taken of those at the start, and what is left of them -/
structure Drained (items : σ → List α) (ready : α → Bool) (key : α → κ) (settled : α → Prop) (s : σ)
    (taken : List α) (t : σ) : Prop where
  order : taken.Sublist ((items s).filter ready)
  keys : ((items t).map key).Sublist ((items s).map key)
  gone : ∀ b ∈ items s, ready b = true → b ∉ taken → key b ∉ (items t).map key
  settled : ∀ b ∈ items t, ready b = false ∧ settled b

lemma Drained.cons {s s' t : σ} {a : α} {taken : List α} (hn : ((items s).map key).Nodup)
    (hf : (items s).find? ready = some a) (hp : Processed key ready settled (items s) a (items s'))
    (ht : Drained items ready key settled s' taken t) : Drained items ready key settled s (a :: taken) t := by
  refine ⟨(ht.order.cons_cons a).trans (hp.ready_sublist hn hf), ht.keys.trans hp.keys, fun b hb hr hnot => ?_,
    ht.settled⟩
  obtain ⟨hba, hnot⟩ : b ≠ a ∧ b ∉ taken := by simpa using hnot
  have hne : key b ≠ key a := fun he => hba (List.inj_on_of_nodup_map hn hb (List.mem_of_find?_eq_some hf) he)
  by_cases hmem : b ∈ items s'
  · exact ht.gone b hmem hr hnot
  · exact fun h => hp.gone hn hb hne hmem (ht.keys.subset h)

/-- The loop ends once it may take every element that is ready, and takes all of them when each step keeps the
others. -/
lemma drain_drained (hnodup : ∀ s, Inv s → ((items s).map key).Nodup)
    (hprocess : ∀ n s a, Inv s → (items s).find? ready = some a →
      Inv (process n a s) ∧ Processed key ready settled (items s) a (items (process n a s)))
    (n fuel : ℕ) {s : σ} (hs : Inv s) (hset : ∀ b ∈ items s, ready b = false → settled b)
    (hfuel : ((items s).filter ready).length < fuel) :
    ∃ taken t, drain items ready process n fuel s = some (taken, t) ∧ Drained items ready key settled s taken t ∧
      ((∀ n s a, Inv s → (items s).find? ready = some a → Keeps key ready (items s) a (items (process n a s))) →
        taken = (items s).filter ready) := by
  induction fuel generalizing n s with
  | zero => exact absurd hfuel (Nat.not_lt_zero _)
  | succ fuel ih =>
    cases hf : (items s).find? ready with
    | none =>
      have hnone : ∀ b ∈ items s, ready b = false := by simpa using hf
      have hempty : (items s).filter ready = [] := by simpa using hf
      refine ⟨[], s, by simp [drain, hf], ⟨List.nil_sublist _, .refl _, fun b hb hr => ?_, fun b hb => ?_⟩, ?_⟩
      · simp [hnone b hb] at hr
      · exact ⟨hnone b hb, hset b hb (hnone b hb)⟩
      · exact fun _ => hempty.symm
    | some a =>
      obtain ⟨hs', hp⟩ := hprocess n s a hs hf
      have hlen : ((items (process n a s)).filter ready).length < fuel := by
        have hle := (hp.ready_sublist (hnodup s hs) hf).length_le
        rw [List.length_cons] at hle
        omega
      obtain ⟨taken, t, hd, ht, hall⟩ := ih (n + 1) hs' (hp.settles hset) hlen
      refine ⟨a :: taken, t, by simp [drain, hf, hd], ht.cons (hnodup s hs) hf hp, fun hkeeps => ?_⟩
      rw [hall hkeeps]
      exact hp.ready_eq (hnodup s hs) hf (hkeeps n s a hs hf)

lemma drain_fuel {n fuel fuel' : ℕ} {s : σ} {r : List α × σ} (h : drain items ready process n fuel s = some r)
    (hle : fuel ≤ fuel') : drain items ready process n fuel' s = some r := by
  induction fuel generalizing n fuel' s r with
  | zero => simp [drain] at h
  | succ fuel ih =>
    obtain ⟨fuel', rfl⟩ : ∃ k, fuel' = k + 1 := ⟨fuel' - 1, by omega⟩
    cases hf : (items s).find? ready with
    | none => simpa [drain, hf] using h
    | some a =>
      simp only [drain, hf, Option.map_eq_some_iff] at h ⊢
      obtain ⟨r', hr', rfl⟩ := h
      exact ⟨r', ih hr' (by omega), rfl⟩

end

end Ril.Lib
