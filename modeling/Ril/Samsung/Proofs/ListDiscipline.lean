import Ril.Samsung.ListHead

/-! A list in memory stays the sequence of what was registered and not unregistered. -/

namespace Ril.Samsung

open Lib Lib.Nodes

/-- A node with its object -/
structure ListCell (α : Type*) where
  list : Address
  object : Address
  value : α

def ListCell.node {α : Type*} (c : ListCell α) : Address × Option Address := (c.list, some c.object)

def ListCell.entry {α : Type*} (c : ListCell α) : Address × α := (c.object, c.value)

/-- What an entry has to be for the key -/
def ListKey.meets {α : Type*} : ListKey α → Address × α → Bool
  | .field isSame, entry => isSame entry.2
  | .pointer data, entry => some entry.1 = data

/-- What the list is for its callers: a sequence of objects -/
def onSequence {α : Type*} (entries : List (Address × α)) : ListCall α → List (Address × α)
  | .register object _ value => entries ++ [(object, value)]
  | .unregister key => entries.eraseP key.meets
  | .flush => []

namespace ListMemory

variable {α : Type*}

/-- The list from the head on is a null-terminated one of these cells, and no other memory is allocated. -/
structure Holds (m : ListMemory α) (cells : List (ListCell α)) : Prop where
  linked : Represents m.nodes m.head (cells.map ListCell.node)
  stored : ∀ c ∈ cells, m.objects c.object = some c.value
  distinct : (cells.map ListCell.object).Nodup
  nodes_only : ∀ p, m.nodes p ≠ none → p ∈ cells.map ListCell.list
  objects_only : ∀ p, m.objects p ≠ none → p ∈ cells.map ListCell.object

variable {m : ListMemory α} {cells before after : List (ListCell α)} {c : ListCell α} {fuel : ℕ}

lemma holds_empty : Holds ({} : ListMemory α) [] where
  linked := ⟨rfl, List.nodup_nil⟩
  stored := fun _ hc => by cases hc
  distinct := List.nodup_nil
  nodes_only := fun _ hp => (hp rfl).elim
  objects_only := fun _ hp => (hp rfl).elim

lemma map_node_fst (cells : List (ListCell α)) : (cells.map ListCell.node).map Prod.fst = cells.map ListCell.list := by
  rw [List.map_map]
  rfl

lemma list_end {nodes : ListNodes} {prev first : Option Address} {xs : List (Address × Option Address)}
    (h : Segment nodes prev first none xs) (hf : xs.length < fuel) : listEnd nodes fuel first = some (lastPointer none xs) := by
  induction xs generalizing prev first fuel with
  | nil =>
    cases fuel with
    | zero => cases hf
    | succ fuel =>
      have hfirst : first = none := h
      rw [hfirst]
      rfl
  | cons x xs ih =>
    cases fuel with
    | zero => cases hf
    | succ fuel =>
      obtain ⟨rfl, following, hnode, hrest⟩ := h
      rw [listEnd, hnode, Option.bind_some]
      cases xs with
      | nil =>
        have hnext : following = none := hrest
        rw [hnext]
        rfl
      | cons y ys =>
        rw [hrest.1]
        exact ih (hrest.1 ▸ hrest) (Nat.lt_of_succ_lt_succ hf)

lemma register_holds {object list : Address} (h : Holds m cells) (hf : cells.length < fuel)
    (hobject : m.objects object = none) (hlist : m.nodes list = none) (value : α) :
    ∃ m', m.register fuel object list value = some m' ∧ Holds m' (cells ++ [⟨list, object, value⟩]) := by
  obtain ⟨nodes', hpush, hlinked, hframe⟩ := represents_push h.linked hlist (some object)
  have hfresh : object ∉ cells.map ListCell.object := by
    intro hmem
    obtain ⟨c, hc, rfl⟩ := List.mem_map.mp hmem
    rw [h.stored c hc] at hobject
    cases hobject
  refine ⟨⟨nodes', Function.update m.objects object (some value), m.head.or (some list)⟩, ?_, ?_, ?_, ?_, ?_, ?_⟩
  · rw [register, list_end h.linked.segment (by rwa [List.length_map]), Option.bind_some, listHeadAlloc]
    rw [pushBack] at hpush
    rw [hpush]
    rfl
  · rw [List.map_append]
    exact hlinked
  · intro c hc
    rcases List.mem_append.mp hc with hc | hc
    · exact (Function.update_of_ne (ne_of_mem_of_not_mem (List.mem_map_of_mem hc) hfresh) _ _).trans (h.stored c hc)
    · rw [List.mem_singleton.mp hc]
      exact Function.update_self _ _ _
  · rw [List.map_append]
    refine List.nodup_append.mpr ⟨h.distinct, List.nodup_singleton object, fun a ha b hb => ?_⟩
    rw [List.mem_singleton.mp hb]
    exact ne_of_mem_of_not_mem ha hfresh
  · intro p hp
    by_contra hmem
    rw [List.map_append, List.mem_append, not_or] at hmem
    have hnode : nodes' p = m.nodes p := by
      refine hframe p ?_
      rw [map_node_fst, List.mem_cons, not_or]
      exact ⟨fun heq => hmem.2 (List.mem_singleton.mpr heq), hmem.1⟩
    exact hmem.1 (h.nodes_only p fun hnone => hp (hnode.trans hnone))
  · intro p hp
    by_contra hmem
    rw [List.map_append, List.mem_append, not_or] at hmem
    have hne : p ≠ object := fun heq => hmem.2 (List.mem_singleton.mpr heq)
    exact hmem.1 (h.objects_only p fun hnone => hp ((Function.update_of_ne hne _ _).trans hnone))

lemma unregister_loop_skips {found : Option Address → Option Bool} {prev first next : Option Address}
    {xs : List (Address × Option Address)} (h : Segment m.nodes prev first next xs)
    (hf : ∀ x ∈ xs, found x.2 = some false) (fuel : ℕ) :
    unregisterLoop found m (xs.length + fuel) first = unregisterLoop found m fuel next := by
  induction xs generalizing prev first with
  | nil =>
    have hfirst : first = next := h
    rw [hfirst, List.length_nil, Nat.zero_add]
  | cons x xs ih =>
    obtain ⟨rfl, following, hnode, hrest⟩ := h
    rw [List.length_cons, Nat.succ_add, unregisterLoop, hnode, Option.bind_some]
    dsimp only
    rw [hf x List.mem_cons_self, Option.bind_some, if_neg Bool.false_ne_true]
    exact ih hrest fun y hy => hf y (List.mem_cons_of_mem _ hy)

lemma mem_of_mem_middle {β : Type*} {xs ys : List β} {x : β} {f : β → Address} {p : Address}
    (hp : p ∈ (xs ++ x :: ys).map f) (hne : p ≠ f x) : p ∈ (xs ++ ys).map f := by
  obtain ⟨d, hd, rfl⟩ := List.mem_map.mp hp
  refine List.mem_map_of_mem ?_
  rcases List.mem_append.mp hd with hd | hd
  · exact List.mem_append_left _ hd
  · rcases List.mem_cons.mp hd with rfl | hd
    · exact (hne rfl).elim
    · exact List.mem_append_right _ hd

lemma remove_holds (h : Holds m (before ++ c :: after)) :
    ∃ node m', m.nodes c.list = some node ∧ node.data = some c.object ∧
      (release (some c.object) m).bind (remove c.list) = some m' ∧ Holds m' (before ++ after) ∧
      m'.head = if m.head = some c.list then node.next else m.head := by
  have hmem : c ∈ before ++ c :: after := List.mem_append_right _ List.mem_cons_self
  have hlinked := h.linked
  rw [List.map_append, List.map_cons] at hlinked
  obtain ⟨node, nodes', hnode, hdata, hunlink, hlinked', hgone, hframe⟩ := represents_unlink hlinked
  rw [← List.map_append] at hlinked'
  have hdistinct := h.distinct
  rw [List.map_append, List.map_cons] at hdistinct
  obtain ⟨hc, hdistinct'⟩ := List.nodup_cons.mp (List.nodup_middle.mp hdistinct)
  rw [← List.map_append] at hc hdistinct'
  refine ⟨node, ⟨nodes', Function.update m.objects c.object none, if m.head = some c.list then node.next else m.head⟩,
    hnode, hdata, ?_, ⟨hlinked', ?_, hdistinct', ?_, ?_⟩, rfl⟩
  · rw [release, Option.bind_some, h.stored c hmem, Option.map_some, Option.bind_some, remove]
    dsimp only
    rw [hnode, Option.bind_some, listHeadFree, hunlink]
    rfl
  · intro d hd
    have hne : d.object ≠ c.object := ne_of_mem_of_not_mem (List.mem_map_of_mem hd) hc
    refine (Function.update_of_ne hne _ _).trans (h.stored d ?_)
    exact List.mem_append.mpr ((List.mem_append.mp hd).imp_right (List.mem_cons_of_mem _))
  · intro p hp
    by_contra hnot
    have hne : p ≠ c.list := by
      rintro rfl
      exact hp hgone
    have hall : p ∉ (before ++ c :: after).map ListCell.list := fun hin => hnot (mem_of_mem_middle hin hne)
    have hframe' : nodes' p = m.nodes p := hframe p (by rwa [← map_node_fst, List.map_append, List.map_cons] at hall)
    exact hall (h.nodes_only p fun hnone => hp (hframe'.trans hnone))
  · intro p hp
    have hne : p ≠ c.object := by
      rintro rfl
      exact hp (Function.update_self _ _ _)
    refine mem_of_mem_middle (h.objects_only p fun hnone => hp ?_) hne
    exact (Function.update_of_ne hne _ _).trans hnone

lemma found_iff (h : Holds m cells) (hc : c ∈ cells) (key : ListKey α) :
    m.found key (some c.object) = some (key.meets c.entry) := by
  cases key with
  | field isSame =>
    rw [found, h.stored c hc]
    rfl
  | pointer data => rfl

lemma unregister_holds (h : Holds m cells) (hf : cells.length < fuel) (key : ListKey α) :
    ∃ m', m.unregister fuel key = some m' ∧ Holds m' (cells.eraseP fun c => key.meets c.entry) := by
  have hskip {before : List (ListCell α)} (hsub : ∀ c ∈ before, c ∈ cells ∧ key.meets c.entry = false) :
      ∀ x ∈ before.map ListCell.node, m.found key x.2 = some false := by
    intro x hx
    obtain ⟨c, hc, rfl⟩ := List.mem_map.mp hx
    exact (found_iff h (hsub c hc).1 key).trans (congrArg some (hsub c hc).2)
  by_cases hex : ∃ c ∈ cells, key.meets c.entry = true
  · obtain ⟨c, hc, hmeets⟩ := hex
    obtain ⟨c, before, after, hbefore, hmeets, rfl, herase⟩ :=
      List.exists_of_eraseP (p := fun c => key.meets c.entry) hc hmeets
    obtain ⟨node, m', hnode, hdata, hremove, hholds, -⟩ := remove_holds h
    have hsegment := h.linked.segment
    rw [List.map_append, List.map_cons] at hsegment
    obtain ⟨middle, hscanned, rfl, -⟩ := segment_append.mp hsegment
    obtain ⟨rest, rfl⟩ : ∃ rest, fuel = (before.map ListCell.node).length + (rest + 1) := by
      rw [List.length_append, List.length_cons] at hf
      exact ⟨fuel - before.length - 1, by rw [List.length_map]; omega⟩
    refine ⟨m', ?_, herase ▸ hholds⟩
    have hfound := found_iff h (List.mem_append_right _ List.mem_cons_self) key
    rw [unregister, unregister_loop_skips hscanned (hskip fun d hd => ⟨List.mem_append_left _ hd, by simpa using hbefore d hd⟩),
      unregisterLoop]
    change (m.nodes c.list).bind _ = _
    rw [hnode, Option.bind_some, hdata, hfound, Option.bind_some, if_pos hmeets]
    exact hremove
  · have hnone : ∀ c ∈ cells, key.meets c.entry = false := fun c hc => by
      by_contra hmeets
      exact hex ⟨c, hc, by simpa using hmeets⟩
    refine ⟨m, ?_, ?_⟩
    · obtain ⟨rest, rfl⟩ : ∃ rest, fuel = (cells.map ListCell.node).length + (rest + 1) :=
        ⟨fuel - cells.length - 1, by rw [List.length_map]; omega⟩
      rw [unregister, unregister_loop_skips h.linked.segment (hskip fun c hc => ⟨hc, hnone c hc⟩), unregisterLoop]
    · rw [List.eraseP_of_forall_not fun c hc => by simpa using hnone c hc]
      exact h

lemma flush_holds (h : Holds m cells) (hf : cells.length < fuel) : ∃ m', m.flush fuel = some m' ∧ Holds m' [] := by
  induction cells generalizing m fuel with
  | nil =>
    obtain ⟨rest, rfl⟩ : ∃ rest, fuel = rest + 1 := ⟨fuel - 1, by omega⟩
    have hhead : m.head = none := h.linked.segment
    refine ⟨m, ?_, h⟩
    rw [flush, hhead]
    rfl
  | cons c cells ih =>
    obtain ⟨rest, rfl⟩ : ∃ rest, fuel = rest + 1 := ⟨fuel - 1, by omega⟩
    have hfront : Holds m ([] ++ c :: cells) := h
    obtain ⟨node, m', hnode, hdata, hremove, hholds, hhead'⟩ := remove_holds hfront
    have hhead : m.head = some c.list := h.linked.segment.1
    rw [if_pos hhead] at hhead'
    obtain ⟨last, hflush, hlast⟩ := ih hholds (Nat.lt_of_succ_lt_succ hf)
    refine ⟨last, ?_, hlast⟩
    rw [flush, hhead, flushLoop, hnode, Option.bind_some, hdata, if_pos Option.isSome_some]
    obtain ⟨freed, hrelease, hremoved⟩ := Option.bind_eq_some_iff.mp hremove
    rw [hrelease, Option.bind_some, hremoved, Option.bind_some, ← hhead']
    exact hflush

end ListMemory

/-! ### Runs -/

variable {α : Type*} {m : ListMemory α} {cells : List (ListCell α)} {fuel : ℕ}

/-- `calloc` gives addresses that are not in use. -/
def callocFresh : Option (ListMemory α) → ListCall α → Bool
  | some m, .register object list _ => (m.objects object).isNone && (m.nodes list).isNone
  | _, _ => true

def listStep (fuel : ℕ) (data : Option (ListMemory α)) (call : ListCall α) : Option (Option (ListMemory α)) :=
  (call.perform fuel data).map Prod.snd

lemma perform_holds (h : m.Holds cells) (hf : cells.length < fuel) (call : ListCall α)
    (hfresh : callocFresh (some m) call = true) :
    ∃ m' cells', call.perform fuel (some m) = some (0, some m') ∧ m'.Holds cells' ∧
      cells'.map ListCell.entry = onSequence (cells.map ListCell.entry) call := by
  cases call with
  | register object list value =>
    obtain ⟨hobject, hlist⟩ := Bool.and_eq_true_iff.mp hfresh
    obtain ⟨m', hm', hholds⟩ := ListMemory.register_holds h hf (Option.isNone_iff_eq_none.mp hobject)
      (Option.isNone_iff_eq_none.mp hlist) value
    refine ⟨m', _, ?_, hholds, ?_⟩
    · rw [ListCall.perform, hm']
      rfl
    · rw [List.map_append]
      rfl
  | unregister key =>
    obtain ⟨m', hm', hholds⟩ := ListMemory.unregister_holds h hf key
    refine ⟨m', _, ?_, hholds, ?_⟩
    · rw [ListCall.perform, hm']
      rfl
    · rw [onSequence, List.eraseP_map]
      rfl
  | flush =>
    obtain ⟨m', hm', hholds⟩ := ListMemory.flush_holds h hf
    refine ⟨m', [], ?_, hholds, rfl⟩
    rw [ListCall.perform, hm']
    rfl

lemma on_sequence_length (entries : List (Address × α)) (call : ListCall α) :
    (onSequence entries call).length ≤ entries.length + 1 := by
  cases call with
  | register object list value => exact Nat.le_of_eq List.length_append
  | unregister key => exact Nat.le_succ_of_le List.length_eraseP_le
  | flush => exact Nat.zero_le _

lemma run_holds (calls : List (ListCall α)) (h : m.Holds cells) (hf : cells.length + calls.length < fuel)
    (hfresh : runMeets (listStep fuel) callocFresh (some m) calls = true) :
    ∃ m' cells', run (listStep fuel) (some m) calls = some (some m') ∧ m'.Holds cells' ∧
      cells'.map ListCell.entry = calls.foldl onSequence (cells.map ListCell.entry) := by
  induction calls generalizing m cells with
  | nil => exact ⟨m, cells, rfl, h, rfl⟩
  | cons call calls ih =>
    rw [List.length_cons] at hf
    obtain ⟨hcall, hcalls⟩ := Bool.and_eq_true_iff.mp hfresh
    have hroom : cells.length < fuel := by omega
    obtain ⟨m', cells', hperform, hholds, hentries⟩ := perform_holds h hroom call hcall
    have hstep : listStep fuel (some m) call = some (some m') := by rw [listStep, hperform, Option.map_some]
    rw [hstep] at hcalls
    have hlength := on_sequence_length (cells.map ListCell.entry) call
    rw [← hentries, List.length_map, List.length_map] at hlength
    have hroom' : cells'.length + calls.length < fuel := by omega
    obtain ⟨last, lasts, hrun, hlast, hlasts⟩ := ih hholds hroom' hcalls
    refine ⟨last, lasts, ?_, hlast, hlasts.trans (by rw [hentries, List.foldl_cons])⟩
    rw [run, hstep]
    exact hrun

/-- After any calls the list is one of the entries that are registered and not unregistered, in their order: its
pointers agree, it ends, nothing else is allocated, and no call has used memory that is freed. -/
theorem list_discipline (fuel : ℕ) (calls : List (ListCall α)) (hf : calls.length < fuel)
    (hfresh : runMeets (listStep fuel) callocFresh (some {}) calls = true) :
    ∃ m cells, run (listStep fuel) (some {}) calls = some (some m) ∧ m.Holds cells ∧
      cells.map ListCell.entry = calls.foldl onSequence [] :=
  run_holds calls ListMemory.holds_empty (by rwa [List.length_nil, Nat.zero_add]) hfresh

/-- The head of three goes, then the tail, then one that is absent. -/
theorem list_discipline_ends :
    ∃ m cells, run (listStep 8) (some {}) [ipcFmtRequestRegister 100 101 .dial 1, ipcFmtRequestRegister 102 103 .hangup 2,
      ipcFmtRequestRegister 104 105 .answer 3, ipcFmtRequestUnregister .dial 1, ipcFmtRequestUnregister .answer 3,
      ipcFmtRequestUnregister .dial 1] = some (some m) ∧ m.Holds cells ∧
        cells.map ListCell.entry = [(102, ⟨.hangup, 2, 0xff⟩)] :=
  list_discipline 8 _ (by decide) (by decide)

end Ril.Samsung
