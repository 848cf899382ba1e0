import Mathlib.Data.Finset.Card
import Mathlib.Data.Finset.Range
import Ril.Libril.Sockets

/-! The table of watched events, while no two events of one socket are in it. -/

namespace Ril.Libril

open Lib

/-- The two events of a socket have the same key. -/
def RilEventId.key : RilEventId → ℕ
  | fixed .wakeupfd => 0
  | fixed .debug => 1
  | fixed (.listen s) => 2 + s.index
  | commands s => 2 + s.index

structure Watching (table : List (Option RilEventId)) (events : RilEventId → RilEvent) (readFds : ℕ → Bool) : Prop where
  length : table.length = maxFdEvents
  keys : (table.reduceOption.map RilEventId.key).Nodup
  index : ∀ (i : ℕ) e, table[i]? = some (some e) → (events e).index = some i
  selected : ∀ e ∈ table.reduceOption, readFds (events e).fd = true
  distinct : ∀ e ∈ table.reduceOption, ∀ e' ∈ table.reduceOption, (events e).fd = (events e').fd → e = e'

variable {table : List (Option RilEventId)} {events : RilEventId → RilEvent} {readFds : ℕ → Bool} {d : Sockets}
  {e e' : RilEventId} {i : ℕ}

lemma key_lt (e : RilEventId) : e.key < 6 := by
  cases e with
  | fixed e =>
    cases e with
    | wakeupfd => decide
    | debug => decide
    | listen s => cases s <;> decide
  | commands s => cases s <;> decide

lemma Watching.nodup (h : Watching table events readFds) : table.reduceOption.Nodup := h.keys.of_map

/-- There are six keys and eight slots. -/
lemma Watching.exists_free (h : Watching table events readFds) : ∃ i, firstFree table = some i := by
  apply Lib.exists_free
  have hsub : (table.reduceOption.map RilEventId.key).toFinset ⊆ Finset.range 6 := by
    intro k hk
    obtain ⟨e, -, rfl⟩ := List.mem_map.mp (List.mem_toFinset.mp hk)
    exact Finset.mem_range.mpr (key_lt e)
  have hcard : table.reduceOption.length ≤ 6 := by
    simpa [List.toFinset_card_of_nodup h.keys] using Finset.card_le_card hsub
  rw [h.length, maxFdEvents]
  omega

@[simp] lemma update_index_fd (e e' : RilEventId) (index : Option ℕ) :
    (Function.update events e { events e with index := index } e').fd = (events e').fd := by
  by_cases he : e' = e
  · subst he
    simp
  · simp [he]

@[simp] lemma update_index_persist (e e' : RilEventId) (index : Option ℕ) :
    (Function.update events e { events e with index := index } e').persist = (events e').persist := by
  by_cases he : e' = e
  · subst he
    simp
  · simp [he]

lemma Watching.fill (h : Watching table events readFds) (hi : table[i]? = some none)
    (hk : ∀ e' ∈ table.reduceOption, e'.key ≠ e.key) (hd : ∀ e' ∈ table.reduceOption, (events e').fd ≠ (events e).fd) :
    Watching (table.set i (some e)) (Function.update events e { events e with index := some i })
      (Function.update readFds (events e).fd true) := by
  have hp : (table.set i (some e)).reduceOption.Perm (e :: table.reduceOption) := entries_fill hi
  refine ⟨by rw [List.length_set, h.length], ?_, ?_, ?_, ?_⟩
  · rw [(hp.map _).nodup_iff, List.map_cons, List.nodup_cons]
    refine ⟨?_, h.keys⟩
    rw [List.mem_map]
    rintro ⟨e', he', hkey⟩
    exact hk e' he' hkey
  · intro j e' hj
    rcases filled_get hi hj with ⟨rfl, rfl⟩ | ⟨-, hj⟩
    · simp
    · have hne : e' ≠ e := fun he => hk e' (mem_entries_iff.mpr ⟨j, hj⟩) (he ▸ rfl)
      rw [Function.update_of_ne hne]
      exact h.index j e' hj
  · intro e' he'
    rw [update_index_fd]
    rcases List.mem_cons.mp (hp.mem_iff.mp he') with rfl | he'
    · simp
    · rw [Function.update_of_ne (hd e' he')]
      exact h.selected e' he'
  · intro e₁ h₁ e₂ h₂ hfd
    rw [update_index_fd, update_index_fd] at hfd
    rcases List.mem_cons.mp (hp.mem_iff.mp h₁) with rfl | h₁
    · rcases List.mem_cons.mp (hp.mem_iff.mp h₂) with rfl | h₂
      · rfl
      · exact absurd hfd.symm (hd e₂ h₂)
    · rcases List.mem_cons.mp (hp.mem_iff.mp h₂) with rfl | h₂'
      · exact absurd hfd (hd e₁ (by assumption))
      · exact h.distinct e₁ (by assumption) e₂ h₂' hfd

lemma Watching.clear (h : Watching table events readFds) (hi : table[i]? = some (some e)) :
    Watching (table.set i none) (Function.update events e { events e with index := none })
      (Function.update readFds (events e).fd false) := by
  have hp : table.reduceOption.Perm (e :: (table.set i none).reduceOption) := entries_clear hi
  have hmem : ∀ e' ∈ (table.set i none).reduceOption, e' ∈ table.reduceOption ∧ e' ≠ e := by
    intro e' he'
    have hn := hp.nodup_iff.mp h.nodup
    refine ⟨hp.mem_iff.mpr (List.mem_cons_of_mem _ he'), ?_⟩
    rintro rfl
    exact (List.nodup_cons.mp hn).1 he'
  refine ⟨by rw [List.length_set, h.length], ?_, ?_, ?_, ?_⟩
  · have hk := (hp.map RilEventId.key).nodup_iff.mp h.keys
    exact (List.nodup_cons.mp hk).2
  · intro j e' hj
    have hne := (hmem e' (mem_entries_iff.mpr ⟨j, hj⟩)).2
    rw [Function.update_of_ne hne]
    exact h.index j e' (cleared_get hj).2
  · intro e' he'
    obtain ⟨hold, hne⟩ := hmem e' he'
    rw [update_index_fd, Function.update_of_ne]
    · exact h.selected e' hold
    · intro hfd
      exact hne (h.distinct e' hold e (mem_entries_iff.mpr ⟨i, hi⟩) hfd)
  · intro e₁ h₁ e₂ h₂ hfd
    rw [update_index_fd, update_index_fd] at hfd
    exact h.distinct e₁ (hmem e₁ h₁).1 e₂ (hmem e₂ h₂).1 hfd

/-! ### The operations on the table -/

namespace Sockets

def watched (d : Sockets) : List RilEventId := d.table.reduceOption

/-- Another event is watched, or one less, and the rest of the state is as before. -/
structure Adds (e : RilEventId) (d d' : Sockets) : Prop where
  watching : Watching d'.table d'.events d'.readFds
  watched : d'.watched.Perm (e :: d.watched)
  fd : ∀ e', (d'.events e').fd = (d.events e').fd
  persist : ∀ e', (d'.events e').persist = (d.events e').persist
  rest : ∃ table events readFds, d' = { d with table := table, events := events, readFds := readFds }

structure Removes (e : RilEventId) (d d' : Sockets) : Prop where
  watching : Watching d'.table d'.events d'.readFds
  watched : d.watched.Perm (e :: d'.watched)
  fd : ∀ e', (d'.events e').fd = (d.events e').fd
  persist : ∀ e', (d'.events e').persist = (d.events e').persist
  rest : ∃ table events readFds, d' = { d with table := table, events := events, readFds := readFds }

lemma adds_event (h : Watching d.table d.events d.readFds) (hk : ∀ e' ∈ d.watched, e'.key ≠ e.key)
    (hd : ∀ e' ∈ d.watched, (d.events e').fd ≠ (d.events e).fd) : Adds e d (d.rilEventAdd e) := by
  obtain ⟨i, hi⟩ := h.exists_free
  rw [rilEventAdd, hi]
  exact ⟨h.fill (first_free_some hi) hk hd, entries_fill (first_free_some hi), fun _ => update_index_fd _ _ _,
    fun _ => update_index_persist _ _ _, _, _, _, rfl⟩

lemma removes_at (h : Watching d.table d.events d.readFds) (hi : d.table[i]? = some (some e)) :
    Removes e d (d.removeWatch e i) :=
  ⟨h.clear hi, entries_clear hi, fun _ => update_index_fd _ _ _, fun _ => update_index_persist _ _ _, _, _, _, rfl⟩

lemma deletes_event (h : Watching d.table d.events d.readFds) (he : e ∈ d.watched) : Removes e d (d.rilEventDel e) := by
  obtain ⟨i, hi⟩ := mem_entries_iff.mp he
  have hlt : i < maxFdEvents := h.length ▸ (List.getElem?_eq_some_iff.mp hi).1
  rw [rilEventDel, h.index i e hi]
  simp only [hlt, if_true]
  exact removes_at h hi

@[simp] lemma set_event (e : RilEventId) (fd : ℕ) (persist : Bool) (d : Sockets) :
    (d.rilEventSet e fd persist).events e = ⟨fd, none, persist⟩ := Function.update_self _ _ _

@[simp] lemma set_registered (e : RilEventId) (fd : ℕ) (persist : Bool) (d : Sockets) :
    (d.rilEventSet e fd persist).registered = d.registered := rfl

@[simp] lemma set_loop (e : RilEventId) (fd : ℕ) (persist : Bool) (d : Sockets) :
    (d.rilEventSet e fd persist).loop = d.loop := rfl

@[simp] lemma add_registered (e : RilEventId) (d : Sockets) : (d.rilEventAdd e).registered = d.registered := by
  rw [rilEventAdd]
  split <;> rfl

@[simp] lemma add_loop (e : RilEventId) (d : Sockets) : (d.rilEventAdd e).loop = d.loop := by
  rw [rilEventAdd]
  split <;> rfl

lemma set_event_of_ne {fd : ℕ} {persist : Bool} (h : e' ≠ e) : (d.rilEventSet e fd persist).events e' = d.events e' :=
  Function.update_of_ne h _ _

lemma watching_set {fd : ℕ} {persist : Bool} (h : Watching d.table d.events d.readFds) (he : e ∉ d.watched) :
    Watching (d.rilEventSet e fd persist).table (d.rilEventSet e fd persist).events (d.rilEventSet e fd persist).readFds := by
  have hne : ∀ e' ∈ d.watched, (d.rilEventSet e fd persist).events e' = d.events e' := by
    intro e' he'
    apply set_event_of_ne
    rintro rfl
    exact he he'
  refine ⟨h.length, h.keys, ?_, ?_, ?_⟩
  · intro i e' hi
    rw [hne e' (mem_entries_iff.mpr ⟨i, hi⟩)]
    exact h.index i e' hi
  · intro e' he'
    rw [hne e' he']
    exact h.selected e' he'
  · intro e₁ h₁ e₂ h₂ hfd
    rw [hne e₁ h₁, hne e₂ h₂] at hfd
    exact h.distinct e₁ h₁ e₂ h₂ hfd

/-! ### The events that are ready -/

lemma readies_mem {fd : RilEventId → ℕ} {ready : List ℕ} {n start : ℕ} (h : (e, i) ∈ readies fd ready n start table) :
    start ≤ i ∧ table[i - start]? = some (some e) := by
  induction table generalizing n start with
  | nil => simp [readies] at h
  | cons o table ih =>
    have hrest {n : ℕ} (h : (e, i) ∈ readies fd ready n (start + 1) table) :
        start ≤ i ∧ (o :: table)[i - start]? = some (some e) := by
      obtain ⟨hle, hget⟩ := ih h
      have hs : i - start = (i - (start + 1)) + 1 := by omega
      exact ⟨by omega, by rw [hs, List.getElem?_cons_succ, hget]⟩
    cases n with
    | zero => simp [readies] at h
    | succ n =>
      cases o with
      | none =>
        rw [readies] at h
        exact hrest h
      | some a =>
        rw [readies] at h
        split at h
        · rcases List.mem_cons.mp h with heq | h
          · obtain ⟨rfl, rfl⟩ := Prod.mk.inj heq
            simp
          · exact hrest h
        · exact hrest h

lemma readies_entries {fd : RilEventId → ℕ} {ready : List ℕ} {n start : ℕ} :
    ((readies fd ready n start table).map Prod.fst).Sublist table.reduceOption := by
  induction table generalizing n start with
  | nil => simp [readies]
  | cons o table ih =>
    cases n with
    | zero => simp [readies]
    | succ n =>
      cases o with
      | none => simpa [readies] using ih
      | some a =>
        rw [readies]
        split
        · simpa using ih.cons_cons a
        · simpa using ih.cons a

end Sockets

end Ril.Libril
