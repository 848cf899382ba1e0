import Ril.Libril.EventQueues

/-! The table of the watched events with the three values that go with it. -/

namespace Ril.Libril.Event

open Lib

namespace RilEvents

def fd (d : RilEvents) (ev : ℕ) : ℤ := (d.mem (.event ev)).fd

def index (d : RilEvents) (ev : ℕ) : ℤ := (d.mem (.event ev)).index

def persist (d : RilEvents) (ev : ℕ) : Bool := (d.mem (.event ev)).persist

def watched (d : RilEvents) : List ℕ := d.watchTable.reduceOption

structure Keeps (d d' : RilEvents) : Prop where
  fd : ∀ ev, d'.fd ev = d.fd ev
  persist : ∀ ev, d'.persist ev = d.persist ev
  timeout : ∀ ev, d'.timeout ev = d.timeout ev

/-- The operations on the table change no more of the events than their places. -/
structure Marks (d d' : RilEvents) : Prop extends Keeps d d' where
  links : d'.links = d.links

structure Watching (d : RilEvents) (initialised : Finset ℕ) : Prop where
  length : d.watchTable.length = maxFdEvents
  index : ∀ (i : ℕ) ev, d.watchTable[i]? = some (some ev) → d.index ev = i
  unwatched : ∀ ev ∈ initialised, ev ∉ d.watched → d.index ev = -1
  initialised : ∀ ev ∈ d.watched, ev ∈ initialised
  valid : ∀ ev ∈ d.watched, 0 ≤ d.fd ev ∧ d.fd ev < fdSetSize
  distinct : ∀ ev ∈ d.watched, ∀ ev' ∈ d.watched, d.fd ev = d.fd ev' → ev = ev'
  readFds : ∀ fd, fd ∈ d.readFds ↔ ∃ ev ∈ d.watched, d.fd ev = fd
  nfds : ∀ ev ∈ d.watched, d.fd ev < d.nfds

variable {d d' d'' : RilEvents} {initialised : Finset ℕ} {ev i : ℕ} {lists : EventQueue → List ℕ} {l : Links EventPtr}

/-! ### What stays -/

lemma Keeps.refl (d : RilEvents) : d.Keeps d := ⟨fun _ => rfl, fun _ => rfl, fun _ => rfl⟩

lemma Keeps.trans (h : d.Keeps d') (h' : d'.Keeps d'') : d.Keeps d'' :=
  ⟨fun ev => (h'.fd ev).trans (h.fd ev), fun ev => (h'.persist ev).trans (h.persist ev),
    fun ev => (h'.timeout ev).trans (h.timeout ev)⟩

lemma with_links_keeps (l : Links EventPtr) : d.Keeps (d.withLinks l) := ⟨fun _ => rfl, fun _ => rfl, fun _ => rfl⟩

lemma Marks.refl (d : RilEvents) : d.Marks d := ⟨.refl d, rfl⟩

lemma Marks.queues (h : d.Marks d') (hq : d.Queues lists) : d'.Queues lists := by rwa [Queues, h.links]

lemma store_index (ev : ℕ) (v : ℤ) : d.Marks (d.store (.event ev) { d.mem (.event ev) with index := v }) := by
  have hsame : ∀ {α : Type} (f : RilEvent → α), (∀ e v, f { e with index := v } = f e) → ∀ p,
      f ((d.store (.event ev) { d.mem (.event ev) with index := v }).mem p) = f (d.mem p) := by
    intro α f hf p
    by_cases hp : p = .event ev
    · rw [hp, store_self, hf]
    · rw [store_other hp]
  refine ⟨⟨fun _ => hsame RilEvent.fd (fun _ _ => rfl) _, fun _ => hsame RilEvent.persist (fun _ _ => rfl) _,
    fun _ => hsame RilEvent.timeout (fun _ _ => rfl) _⟩, ?_⟩
  rw [links, links, Links.mk.injEq]
  exact ⟨funext (hsame RilEvent.next fun _ _ => rfl), funext (hsame RilEvent.prev fun _ _ => rfl)⟩

lemma remove_watch_marks (ev i : ℕ) : d.Marks (d.removeWatch ev i) := by
  have hstore : ({ d with watchTable := d.watchTable.set i none } : RilEvents).Marks _ := store_index ev (-1)
  rw [removeWatch]
  dsimp only
  split <;> exact ⟨⟨hstore.fd, hstore.persist, hstore.timeout⟩, hstore.links⟩

lemma event_add_marks (ev : ℕ) : d.Marks (d.rilEventAdd ev) := by
  rw [rilEventAdd]
  split
  · exact .refl d
  · rename_i i hi
    have hstore : ({ d with watchTable := d.watchTable.set i (some ev) } : RilEvents).Marks _ := store_index ev i
    dsimp only
    split <;> exact ⟨⟨hstore.fd, hstore.persist, hstore.timeout⟩, hstore.links⟩

lemma event_del_marks (ev : ℕ) : d.Marks (d.rilEventDel ev) := by
  rw [rilEventDel]
  split
  · exact .refl d
  · exact remove_watch_marks ev _

/-! ### The greatest descriptor -/

lemma le_greatest_fd (n : ℤ) (table : List (Option ℕ)) : n ≤ d.greatestFd n table := by
  induction table generalizing n with
  | nil => exact le_refl n
  | cons rev table ih =>
    cases rev with
    | none => exact ih n
    | some rev =>
      refine le_trans ?_ (ih _)
      split <;> omega

lemma fd_le_greatest {n : ℤ} {table : List (Option ℕ)} (h : ev ∈ table.reduceOption) : d.fd ev ≤ d.greatestFd n table := by
  induction table generalizing n with
  | nil => exact absurd h List.not_mem_nil
  | cons rev table ih =>
    cases rev with
    | none => exact ih (by simpa using h)
    | some rev =>
      rw [List.reduceOption_cons_of_some] at h
      rcases List.mem_cons.mp h with rfl | h
      · refine le_trans ?_ (le_greatest_fd _ table)
        have hfd : d.fd ev = (d.mem (.event ev)).fd := rfl
        split <;> omega
      · exact ih h

/-! ### The operations on the table -/

lemma remove_watch_table (ev i : ℕ) : (d.removeWatch ev i).watchTable = d.watchTable.set i none := by
  rw [removeWatch]
  dsimp only
  split <;> rfl

lemma remove_watch_fds (ev i : ℕ) : (d.removeWatch ev i).readFds = d.readFds.erase (d.fd ev) := by
  have hfd : (({ d with watchTable := d.watchTable.set i none } : RilEvents).store (.event ev)
      { d.mem (.event ev) with index := -1 }).fd ev = d.fd ev := (store_index ev (-1)).fd ev
  rw [removeWatch, ← hfd]
  dsimp only
  split <;> rfl

lemma remove_watch_index (ev i ev' : ℕ) : (d.removeWatch ev i).index ev' = if ev' = ev then -1 else d.index ev' := by
  have hmem : (d.removeWatch ev i).mem = (d.store (.event ev) { d.mem (.event ev) with index := -1 }).mem := by
    rw [removeWatch]
    dsimp only
    split <;> rfl
  rw [index, hmem]
  split
  · rename_i heq
    rw [heq, store_self]
  · rename_i hne
    rw [store_other fun hp => hne (EventPtr.event.inj hp)]
    rfl

/-- The descriptors of the rest stay below `nfds`. -/
lemma remove_watch_nfds {ev' : ℕ} (hmem : ev' ∈ (d.removeWatch ev i).watched) (hlt : d.fd ev' < d.nfds) :
    d.fd ev' < (d.removeWatch ev i).nfds := by
  rw [watched, remove_watch_table] at hmem
  rw [removeWatch]
  dsimp only
  split
  · have hfd := (store_index (d := { d with watchTable := d.watchTable.set i none }) ev (-1)).fd ev'
    refine Int.lt_add_one_of_le (le_trans (le_of_eq hfd.symm) ?_)
    exact fd_le_greatest (d := { RilEvents.store _ _ _ with readFds := _ }) hmem
  · exact hlt

lemma event_add_table (hi : firstFree d.watchTable = some i) :
    (d.rilEventAdd ev).watchTable = d.watchTable.set i (some ev) := by
  rw [rilEventAdd, hi]
  dsimp only
  split <;> rfl

lemma event_add_fds (hi : firstFree d.watchTable = some i) :
    (d.rilEventAdd ev).readFds = insert (d.fd ev) d.readFds := by
  have hfd : (({ d with watchTable := d.watchTable.set i (some ev) } : RilEvents).store (.event ev)
      { d.mem (.event ev) with index := i }).fd ev = d.fd ev := (store_index ev i).fd ev
  rw [rilEventAdd, hi, ← hfd]
  dsimp only
  split <;> rfl

lemma event_add_nfds (ev : ℕ) (hi : firstFree d.watchTable = some i) :
    d.nfds ≤ (d.rilEventAdd ev).nfds ∧ d.fd ev < (d.rilEventAdd ev).nfds := by
  have hfd : (({ d with watchTable := d.watchTable.set i (some ev) } : RilEvents).store (.event ev)
      { d.mem (.event ev) with index := i }).fd ev = d.fd ev := (store_index ev i).fd ev
  rw [rilEventAdd, hi, ← hfd]
  dsimp only
  split
  · rename_i hle
    exact ⟨Int.le_add_one hle, Int.lt_succ _⟩
  · rename_i hlt
    exact ⟨le_refl d.nfds, not_le.mp hlt⟩

lemma event_add_index (hi : firstFree d.watchTable = some i) (ev' : ℕ) :
    (d.rilEventAdd ev).index ev' = if ev' = ev then (i : ℤ) else d.index ev' := by
  have hmem : (d.rilEventAdd ev).mem = (d.store (.event ev) { d.mem (.event ev) with index := i }).mem := by
    rw [rilEventAdd, hi]
    dsimp only
    split <;> rfl
  rw [index, hmem]
  split
  · rename_i heq
    rw [heq, store_self]
  · rename_i hne
    rw [store_other fun hp => hne (EventPtr.event.inj hp)]
    rfl

namespace Watching

lemma place_unique (h : d.Watching initialised) {j : ℕ} (hi : d.watchTable[i]? = some (some ev))
    (hj : d.watchTable[j]? = some (some ev)) : i = j := by
  have heq := (h.index i ev hi).symm.trans (h.index j ev hj)
  exact Int.ofNat_inj.mp heq

lemma nodup (h : d.Watching initialised) : d.watched.Nodup := entries_nodup fun _ _ _ => h.place_unique

lemma with_links (h : d.Watching initialised) (l : Links EventPtr) : (d.withLinks l).Watching initialised :=
  ⟨h.length, h.index, h.unwatched, h.initialised, h.valid, h.distinct, h.readFds, h.nfds⟩

/-- An event that is not watched may be stored anew. -/
lemma store (h : d.Watching initialised) (hev : ev ∉ d.watched) {e : RilEvent} (hindex : e.index = -1) :
    (d.store (.event ev) e).Watching (insert ev initialised) := by
  have hother : ∀ ev' ∈ d.watched, (d.store (.event ev) e).mem (.event ev') = d.mem (.event ev') := fun ev' hev' =>
    store_other fun heq => hev (EventPtr.event.inj heq ▸ hev')
  have hfd : ∀ ev' ∈ d.watched, (d.store (.event ev) e).fd ev' = d.fd ev' := fun ev' hev' =>
    congrArg RilEvent.fd (hother ev' hev')
  refine ⟨h.length, fun i ev' hi => ?_, fun ev' hmem hev' => ?_, fun ev' hev' => ?_, fun ev' hev' => ?_,
    fun ev₁ h₁ ev₂ h₂ heq => ?_, fun fd => ?_, fun ev' hev' => ?_⟩
  · exact (congrArg RilEvent.index (hother ev' (mem_entries_iff.mpr ⟨i, hi⟩))).trans (h.index i ev' hi)
  · by_cases heq : ev' = ev
    · rw [heq, RilEvents.index, store_self, hindex]
    · rw [RilEvents.index, store_other fun hp => heq (EventPtr.event.inj hp)]
      exact h.unwatched ev' (Finset.mem_of_mem_insert_of_ne hmem heq) hev'
  · exact Finset.mem_insert_of_mem (h.initialised ev' hev')
  · rw [hfd ev' hev']
    exact h.valid ev' hev'
  · rw [hfd ev₁ h₁, hfd ev₂ h₂] at heq
    exact h.distinct ev₁ h₁ ev₂ h₂ heq
  · refine (h.readFds fd).trans (exists_congr fun ev' => and_congr_right fun hev' => ?_)
    rw [hfd ev' hev']
  · rw [hfd ev' hev']
    exact h.nfds ev' hev'

lemma remove (h : d.Watching initialised) (hi : d.watchTable[i]? = some (some ev)) :
    (d.removeWatch ev i).Watching initialised := by
  have hperm : d.watched.Perm (ev :: (d.removeWatch ev i).watched) := by
    rw [watched, watched, remove_watch_table]
    exact entries_clear hi
  have hrest : ∀ ev', ev' ∈ (d.removeWatch ev i).watched ↔ ev' ∈ d.watched ∧ ev' ≠ ev := by
    intro ev'
    have hnodup := hperm.nodup_iff.mp h.nodup
    refine ⟨fun hmem => ⟨hperm.mem_iff.mpr (List.mem_cons_of_mem _ hmem), ?_⟩, fun ⟨hmem, hne⟩ => ?_⟩
    · exact ne_of_mem_of_not_mem hmem (List.nodup_cons.mp hnodup).1
    · exact (List.mem_cons.mp (hperm.mem_iff.mp hmem)).resolve_left hne
  have hev : ev ∈ d.watched := mem_entries_iff.mpr ⟨i, hi⟩
  have hfd := (remove_watch_marks (d := d) ev i).fd
  refine ⟨?_, fun j ev' hj => ?_, fun ev' hmem hev' => ?_, fun ev' hev' => ?_, fun ev' hev' => ?_,
    fun ev₁ h₁ ev₂ h₂ heq => ?_, fun fd => ?_, fun ev' hev' => ?_⟩
  · rw [remove_watch_table, List.length_set, h.length]
  · rw [remove_watch_index, if_neg ((hrest ev').mp (mem_entries_iff.mpr ⟨j, hj⟩)).2]
    rw [remove_watch_table] at hj
    exact h.index j ev' (cleared_get hj).2
  · rw [remove_watch_index]
    split
    · rfl
    · rename_i hne
      exact h.unwatched ev' hmem fun hold => hev' ((hrest ev').mpr ⟨hold, hne⟩)
  · exact h.initialised ev' ((hrest ev').mp hev').1
  · rw [hfd]
    exact h.valid ev' ((hrest ev').mp hev').1
  · rw [hfd, hfd] at heq
    exact h.distinct ev₁ ((hrest ev₁).mp h₁).1 ev₂ ((hrest ev₂).mp h₂).1 heq
  · rw [remove_watch_fds, Finset.mem_erase, h.readFds fd]
    constructor
    · rintro ⟨hne, ev', hev', rfl⟩
      exact ⟨ev', (hrest ev').mpr ⟨hev', fun heq => hne (heq ▸ rfl)⟩, hfd ev'⟩
    · rintro ⟨ev', hev', rfl⟩
      obtain ⟨hold, hne⟩ := (hrest ev').mp hev'
      rw [hfd]
      exact ⟨fun heq => hne (h.distinct ev' hold ev hev heq), ev', hold, rfl⟩
  · rw [hfd]
    exact remove_watch_nfds hev' (h.nfds ev' ((hrest ev').mp hev').1)

lemma add (h : d.Watching initialised) (hev : ev ∈ initialised) (hnew : ev ∉ d.watched)
    (hvalid : 0 ≤ d.fd ev ∧ d.fd ev < fdSetSize) (hfds : ∀ ev' ∈ d.watched, d.fd ev' ≠ d.fd ev)
    (hroom : d.watched.length < maxFdEvents) :
    (d.rilEventAdd ev).Watching initialised ∧ (d.rilEventAdd ev).watched.Perm (ev :: d.watched) := by
  obtain ⟨i, hi⟩ := exists_free (h.length ▸ hroom)
  have hfree := first_free_some hi
  have hperm : (d.rilEventAdd ev).watched.Perm (ev :: d.watched) := by
    rw [watched, watched, event_add_table hi]
    exact entries_fill hfree
  have hmem : ∀ ev', ev' ∈ (d.rilEventAdd ev).watched ↔ ev' = ev ∨ ev' ∈ d.watched := fun ev' =>
    hperm.mem_iff.trans List.mem_cons
  have hfd := (event_add_marks (d := d) ev).fd
  obtain ⟨hnfds, hlt⟩ := event_add_nfds ev hi
  refine ⟨⟨?_, fun j ev' hj => ?_, fun ev' hin hev' => ?_, fun ev' hev' => ?_, fun ev' hev' => ?_,
    fun ev₁ h₁ ev₂ h₂ heq => ?_, fun fd => ?_, fun ev' hev' => ?_⟩, hperm⟩
  · rw [event_add_table hi, List.length_set, h.length]
  · rw [event_add_table hi] at hj
    rw [event_add_index hi]
    rcases filled_get hfree hj with ⟨rfl, rfl⟩ | ⟨-, hj⟩
    · rw [if_pos rfl]
    · rw [if_neg (ne_of_mem_of_not_mem (mem_entries_iff.mpr ⟨j, hj⟩) hnew)]
      exact h.index j ev' hj
  · rw [hmem, not_or] at hev'
    rw [event_add_index hi, if_neg hev'.1]
    exact h.unwatched ev' hin hev'.2
  · rcases (hmem ev').mp hev' with rfl | hold
    · exact hev
    · exact h.initialised ev' hold
  · rw [hfd]
    rcases (hmem ev').mp hev' with rfl | hold
    · exact hvalid
    · exact h.valid ev' hold
  · rw [hfd, hfd] at heq
    rcases (hmem ev₁).mp h₁ with rfl | hold₁
    · rcases (hmem ev₂).mp h₂ with rfl | hold₂
      · rfl
      · exact absurd heq.symm (hfds ev₂ hold₂)
    · rcases (hmem ev₂).mp h₂ with rfl | hold₂
      · exact absurd heq (hfds ev₁ hold₁)
      · exact h.distinct ev₁ hold₁ ev₂ hold₂ heq
  · rw [event_add_fds hi, Finset.mem_insert, h.readFds fd]
    constructor
    · rintro (rfl | ⟨ev', hev', rfl⟩)
      · exact ⟨ev, (hmem ev).mpr (.inl rfl), hfd ev⟩
      · exact ⟨ev', (hmem ev').mpr (.inr hev'), hfd ev'⟩
    · rintro ⟨ev', hev', rfl⟩
      rw [hfd]
      rcases (hmem ev').mp hev' with rfl | hold
      · exact .inl rfl
      · exact .inr ⟨ev', hold, rfl⟩
  · rw [hfd]
    rcases (hmem ev').mp hev' with rfl | hold
    · exact hlt
    · exact lt_of_lt_of_le (h.nfds ev' hold) hnfds

lemma del (h : d.Watching initialised) (hev : ev ∈ initialised) :
    (d.rilEventDel ev).Watching initialised ∧ ∀ ev', ev' ∈ (d.rilEventDel ev).watched → ev' ∈ d.watched := by
  by_cases hw : ev ∈ d.watched
  · obtain ⟨i, hi⟩ := mem_entries_iff.mp hw
    have hindex : (d.mem (.event ev)).index = i := h.index i ev hi
    have hlt : i < maxFdEvents := h.length ▸ (List.getElem?_eq_some_iff.mp hi).1
    have hdel : d.rilEventDel ev = d.removeWatch ev i := by
      rw [rilEventDel, hindex, if_neg (by omega), Int.toNat_natCast]
    rw [hdel]
    refine ⟨h.remove hi, fun ev' hev' => ?_⟩
    rw [watched, remove_watch_table] at hev'
    obtain ⟨j, hj⟩ := mem_entries_iff.mp hev'
    exact mem_entries_iff.mpr ⟨j, (cleared_get hj).2⟩
  · have hindex : (d.mem (.event ev)).index = -1 := h.unwatched ev hev hw
    rw [rilEventDel, hindex, if_pos (.inl (by decide))]
    exact ⟨h, fun _ => id⟩

end Watching

/-! ### The walk over the table -/

variable {rfds : Finset ℤ} {slots n : ℕ} {o : Option ℕ}

def ready (d : RilEvents) (rfds : Finset ℤ) (ev : ℕ) : Bool := d.fd ev ∈ rfds

/-- What `processReadReadies` leaves of a slot -/
def leaves (d : RilEvents) (rfds : Finset ℤ) (rev : Option ℕ) : Option ℕ :=
  rev.filter fun ev => !d.ready rfds ev || d.persist ev

/-- The ready events of the slots from `i` on -/
def readyFrom (d : RilEvents) (rfds : Finset ℤ) (i : ℕ) : List ℕ :=
  (d.watchTable.drop i).reduceOption.filter (d.ready rfds)

/-- The ready events are pending, behind those that were. -/
structure Readied (d : RilEvents) (rfds : Finset ℤ) (i : ℕ) (lists : EventQueue → List ℕ) (initialised : Finset ℕ)
    (d' : RilEvents) : Prop where
  watching : d'.Watching initialised
  queues : d'.Queues (Function.update lists .pending (lists .pending ++ d.readyFrom rfds i))
  keeps : d.Keeps d'
  table : d'.watchTable = d.watchTable.take i ++ (d.watchTable.drop i).map (d.leaves rfds)

lemma Keeps.ready_eq (h : d.Keeps d') : d'.ready rfds = d.ready rfds := funext fun ev => by rw [ready, ready, h.fd]

lemma Keeps.leaves_eq (h : d.Keeps d') : d'.leaves rfds = d.leaves rfds := by
  funext rev
  rw [leaves, leaves, h.ready_eq]
  simp only [h.persist]

lemma ready_from_drop (rfds : Finset ℤ) (hlt : i < d.watchTable.length) : d.readyFrom rfds i =
    ((d.watchTable[i]).toList.filter (d.ready rfds)) ++ d.readyFrom rfds (i + 1) := by
  rw [readyFrom, readyFrom, List.drop_eq_getElem_cons hlt]
  cases d.watchTable[i] with
  | none => rfl
  | some rev =>
    rw [List.reduceOption_cons_of_some, List.filter_cons]
    by_cases hr : d.ready rfds rev = true
    · simp [hr]
    · simp [hr]

lemma none_ready (hw : d.Watching initialised) (hq : d.Queues lists) (h : d.readyFrom rfds i = []) :
    d.Readied rfds i lists initialised d := by
  refine ⟨hw, ?_, .refl d, ?_⟩
  · rw [h, List.append_nil, Function.update_eq_self]
    exact hq
  · have hleaves : ∀ rev ∈ d.watchTable.drop i, d.leaves rfds rev = id rev := by
      intro rev hrev
      cases rev with
      | none => rfl
      | some ev =>
        have hr := List.filter_eq_nil_iff.mp h ev (List.reduceOption_mem_iff.mpr hrev)
        simp [leaves, hr]
    rw [List.map_congr_left hleaves, List.map_id, List.take_append_drop]

/-- One slot, and the walk over the rest -/
lemma Readied.step {lists' : EventQueue → List ℕ} (hlt : i < d.watchTable.length) (hk : d.Keeps d')
    (ht : d'.watchTable = d.watchTable.set i (d.leaves rfds d.watchTable[i]))
    (hl : Function.update lists' .pending (lists' .pending ++ d'.readyFrom rfds (i + 1)) =
      Function.update lists .pending (lists .pending ++ d.readyFrom rfds i))
    (h : d'.Readied rfds (i + 1) lists' initialised d'') : d.Readied rfds i lists initialised d'' := by
  refine ⟨h.watching, hl ▸ h.queues, hk.trans h.keeps, ?_⟩
  have hset : d.watchTable.set i (d.leaves rfds d.watchTable[i]) =
      (d.watchTable.take i ++ [d.leaves rfds d.watchTable[i]]) ++ d.watchTable.drop (i + 1) := by
    rw [List.set_eq_take_append_cons_drop, if_pos hlt, List.append_cons]
  have hlength : (d.watchTable.take i ++ [d.leaves rfds d.watchTable[i]]).length = i + 1 := by
    rw [List.length_append, List.length_take_of_le (Nat.le_of_lt hlt), List.length_singleton]
  rw [h.table, hk.leaves_eq, ht, hset, List.take_left' hlength, List.drop_left' hlength, List.drop_eq_getElem_cons hlt,
    List.map_cons, List.append_assoc, List.singleton_append]

lemma ready_rest (rfds : Finset ℤ) (hk : d.Keeps d') (ht : d'.watchTable = d.watchTable.set i o) :
    d'.readyFrom rfds (i + 1) = d.readyFrom rfds (i + 1) := by
  rw [readyFrom, readyFrom, hk.ready_eq, ht, List.drop_set_of_lt (Nat.lt_succ_self i)]

/-- What is done with a ready event that is in its slot -/
lemma keep_or_remove (hw : d.Watching initialised) (hi : d.watchTable[i]? = some (some ev)) (hr : d.ready rfds ev = true) :
    (if (d.mem (.event ev)).persist then d else d.removeWatch ev i).Watching initialised ∧
      d.Marks (if (d.mem (.event ev)).persist then d else d.removeWatch ev i) ∧
      (if (d.mem (.event ev)).persist then d else d.removeWatch ev i).watchTable =
        d.watchTable.set i (d.leaves rfds (some ev)) := by
  obtain ⟨hlt, hget⟩ := List.getElem?_eq_some_iff.mp hi
  by_cases hp : (d.mem (.event ev)).persist = true
  · have hleaves : d.leaves rfds (some ev) = some ev := by
      rw [leaves, Option.filter_some, if_pos]
      exact Bool.or_eq_true_iff.mpr (.inr hp)
    rw [if_pos hp, hleaves, ← hget, List.set_getElem_self]
    exact ⟨hw, .refl d, rfl⟩
  · have hleaves : d.leaves rfds (some ev) = none := by
      have hpersist : d.persist ev = false := Bool.eq_false_iff.mpr hp
      rw [leaves, Option.filter_some, if_neg]
      simp [hr, hpersist]
    rw [if_neg hp, hleaves]
    exact ⟨hw.remove hi, remove_watch_marks ev i, remove_watch_table ev i⟩

lemma Watching.ready_later (hw : d.Watching initialised) {ev' : ℕ} (hi : d.watchTable[i]? = some (some ev))
    (hev : ev' ∈ d.readyFrom rfds (i + 1)) : ev' ≠ ev := by
  rintro rfl
  obtain ⟨j, hj⟩ := mem_entries_iff.mp (List.mem_of_mem_filter hev)
  rw [List.getElem?_drop] at hj
  have hsame := hw.place_unique hi hj
  omega

lemma still_free {ev' : ℕ} (hev : ∀ q, ev' ∉ lists q) (hne : ev' ≠ ev) (q : EventQueue) :
    ev' ∉ Function.update lists .pending (lists .pending ++ [ev]) q := by
  by_cases hq : q = .pending
  · have hold := hev .pending
    rw [hq, Function.update_self]
    simpa [hne] using hold
  · rw [Function.update_of_ne hq]
    exact hev q

lemma read_readies_from (hw : d.Watching initialised) (hq : d.Queues lists) (hi : i + slots = maxFdEvents)
    (hn : (d.readyFrom rfds i).length ≤ n) (hfree : ∀ ev ∈ d.readyFrom rfds i, ∀ q, ev ∉ lists q) :
    ∃ d', d.processReadReadiesFrom rfds slots i n = some d' ∧ d.Readied rfds i lists initialised d' := by
  induction slots generalizing i n d lists with
  | zero =>
    refine ⟨d, rfl, none_ready hw hq ?_⟩
    have hdrop : d.watchTable.drop i = [] := List.drop_eq_nil_of_le (le_of_eq (hw.length.trans hi.symm))
    rw [readyFrom, hdrop]
    rfl
  | succ slots ih =>
    have hlt : i < d.watchTable.length := by
      rw [hw.length]
      omega
    have hsplit := ready_from_drop rfds hlt
    rw [processReadReadiesFrom]
    by_cases hpos : 0 < n
    · rw [if_pos hpos, List.getElem?_eq_getElem hlt, Option.join_some]
      cases hrev : d.watchTable[i] with
      | none =>
        rw [hrev] at hsplit
        have hrest : d.readyFrom rfds i = d.readyFrom rfds (i + 1) := hsplit
        obtain ⟨d', hrun, hread⟩ := ih hw hq (by omega) (hrest ▸ hn) (hrest ▸ hfree)
        refine ⟨d', hrun, .step hlt (.refl d) ?_ (by rw [hrest]) hread⟩
        rw [hrev, leaves, Option.filter_none, ← hrev, List.set_getElem_self]
      | some rev =>
        by_cases hready : d.ready rfds rev = true
        · rw [hrev, Option.toList_some, List.filter_cons_of_pos hready, List.filter_nil] at hsplit
          have hplace : d.watchTable[i]? = some (some rev) := by rw [List.getElem?_eq_getElem hlt, hrev]
          have hin : rev ∈ d.readyFrom rfds i := hsplit ▸ List.mem_append_left _ List.mem_cons_self
          have hend : lists .pending = lists .pending ++ [] := (List.append_nil _).symm
          obtain ⟨l, hadd, hq'⟩ := hq.insert hend (hfree rev hin)
          have hready' : (d.withLinks l).ready rfds rev = true := hready
          have hadd : d.addToList (.event rev) .pendingList = some (d.withLinks l) := hadd
          obtain ⟨hw₂, hmarks, ht⟩ := keep_or_remove (hw.with_links l) hplace hready'
          have hk := (with_links_keeps (d := d) l).trans hmarks.toKeeps
          have hq₂ := hmarks.queues hq'
          rw [(with_links_keeps l).leaves_eq] at ht
          have hrest : _ = d.readyFrom rfds (i + 1) := ready_rest rfds hk ht
          have hcount : (d.readyFrom rfds (i + 1)).length ≤ n - 1 := by
            rw [hsplit, List.length_append, List.length_singleton] at hn
            omega
          have hfree₂ : ∀ ev ∈ d.readyFrom rfds (i + 1), ∀ q,
              ev ∉ Function.update lists .pending (lists .pending ++ [rev]) q := fun ev hev =>
            still_free (hfree ev (hsplit ▸ List.mem_append_right _ hev)) (hw.ready_later hplace hev)
          obtain ⟨d', hrun, hread⟩ := ih hw₂ hq₂ (by omega) (hrest ▸ hcount) (hrest ▸ hfree₂)
          refine ⟨d', ?_, .step hlt hk (hrev ▸ ht) ?_ hread⟩
          · have hfd : (d.mem (.event rev)).fd ∈ rfds := of_decide_eq_true hready
            dsimp only
            rw [if_pos hfd, hadd, Option.bind_eq_bind, Option.bind_some]
            exact hrun
          · rw [hrest, Function.update_self, Function.update_idem, hsplit, List.append_assoc]
        · rw [hrev, Option.toList_some, List.filter_cons_of_neg hready, List.filter_nil] at hsplit
          have hrest : d.readyFrom rfds i = d.readyFrom rfds (i + 1) := hsplit
          obtain ⟨d', hrun, hread⟩ := ih hw hq (by omega) (hrest ▸ hn) (hrest ▸ hfree)
          refine ⟨d', ?_, .step hlt (.refl d) ?_ (by rw [hrest]) hread⟩
          · have hfd : (d.mem (.event rev)).fd ∉ rfds := fun hc => hready (decide_eq_true hc)
            dsimp only
            rw [if_neg hfd]
            exact hrun
          · rw [hrev, leaves, Option.filter_some, if_pos (by simp [hready]), ← hrev, List.set_getElem_self]
    · have hnil : d.readyFrom rfds i = [] := List.length_eq_zero_iff.mp (by omega)
      rw [if_neg hpos]
      exact ⟨d, rfl, none_ready hw hq hnil⟩

/-- `select` has counted enough descriptors: those of the watched events are distinct. -/
lemma Watching.ready_count (hw : d.Watching initialised) : (d.readyFrom rfds 0).length ≤ rfds.card := by
  have hfds : ((d.readyFrom rfds 0).map d.fd).Nodup := by
    refine List.Nodup.map_on (fun ev hev ev' hev' heq => ?_) (hw.nodup.filter _)
    exact hw.distinct ev (List.mem_of_mem_filter hev) ev' (List.mem_of_mem_filter hev') heq
  rw [← List.length_map d.fd, ← List.toFinset_card_of_nodup hfds]
  refine Finset.card_le_card fun fd hfd => ?_
  obtain ⟨ev, hev, rfl⟩ := List.mem_map.mp (List.mem_toFinset.mp hfd)
  exact of_decide_eq_true (List.mem_filter.mp hev).2

lemma read_readies (hw : d.Watching initialised) (hq : d.Queues lists)
    (hfree : ∀ ev ∈ d.readyFrom rfds 0, ∀ q, ev ∉ lists q) :
    ∃ d', d.processReadReadies rfds rfds.card = some d' ∧ d.Readied rfds 0 lists initialised d' :=
  read_readies_from hw hq (Nat.zero_add _) hw.ready_count hfree

lemma Readied.watched_iff (h : d.Readied rfds 0 lists initialised d') :
    ev ∈ d'.watched ↔ ev ∈ d.watched ∧ (d.fd ev ∈ rfds → d.persist ev = true) := by
  have htable : d'.watchTable = d.watchTable.map (d.leaves rfds) := h.table
  rw [watched, watched, List.reduceOption_mem_iff, List.reduceOption_mem_iff, htable, List.mem_map]
  have hleaves : ∀ rev, d.leaves rfds rev = some ev ↔ rev = some ev ∧ (d.fd ev ∈ rfds → d.persist ev = true) := by
    intro rev
    rw [leaves, Option.filter_eq_some_iff, Bool.or_eq_true, Bool.not_eq_true', ready, decide_eq_false_iff_not, imp_iff_not_or]
  constructor
  · rintro ⟨rev, hrev, hl⟩
    obtain ⟨rfl, hp⟩ := (hleaves rev).mp hl
    exact ⟨hrev, hp⟩
  · rintro ⟨hrev, hp⟩
    exact ⟨_, hrev, (hleaves _).mpr ⟨rfl, hp⟩⟩

end RilEvents

end Ril.Libril.Event
