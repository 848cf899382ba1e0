import Ril.Mock.Worker

/-! What the worker queue does with the values that are added to it. -/

namespace Ril.Mock

open Lib

variable {V : Type}

namespace WorkerQueue

def deadline (d : WorkerQueue V) (n : ℕ) : Option ℤ := d.added[n]?.bind Prod.snd

def inHand (d : WorkerQueue V) : List ℕ :=
  match d.worker with
  | .unlocked r _ => [r]
  | _ => []

def calls (d : WorkerQueue V) (l : List ℕ) : List ℕ := l.map fun r => (d.memory r).call

def processedCalls (d : WorkerQueue V) : List ℕ := d.processed.map Processed.call

/-- The calls in the order in which they are processed, as far as it is settled -/
def line (d : WorkerQueue V) : List ℕ := d.processedCalls ++ d.calls (d.inHand ++ d.q)

/-- The first call comes before the second one in the line, or they are of different kinds. -/
def Precedes (d : WorkerQueue V) (m n : ℕ) : Prop :=
  match d.deadline m, d.deadline n with
  | none, none => m < n
  | some s, some t => s ≤ t
  | _, _ => True

/-- When `n` is processed, `m` has been. -/
def ProcessedBefore (d : WorkerQueue V) (m n : ℕ) : Prop :=
  ∀ earlier later, d.processedCalls = earlier ++ n :: later → m ∈ earlier

end WorkerQueue

/-- The worker and the clock go on alone. -/
def Alone (_ : WorkerQueue V) : QueueAction V → Prop
  | .enter | .wake | .process | .tick _ => True
  | _ => False

/-- What becomes of the values that were added: each is processed once or is still in the queue. -/
structure Served (pq : PriorityQueue ℕ) (d : WorkerQueue V) : Prop where
  once : (d.processedCalls ++ d.calls (d.inHand ++ d.q ++ d.delayed)).Perm (List.range d.added.length)
  value : ∀ e ∈ d.processed, d.added[e.call]?.map Prod.fst = some e.p
  deadline : ∀ e ∈ d.processed, ∀ t, d.deadline e.call = some t → t ≤ e.now
  inOrder : ∀ m n, m < n → n < d.added.length → d.deadline m = none → d.deadline n = none → d.ProcessedBefore m n
  byDeadline : ∀ m n s t, d.deadline m = some s → d.deadline n = some t → s < t → d.ProcessedBefore m n
  asleep : ∀ time, d.worker = .waiting time false → d.q = [] ∧ (time = none → d.delayed = []) ∧
    ∀ t, time = some t → ∀ r ∈ d.delayed, t ≤ d.time r
  drains : d.state = .running → ∃ d', Reaches (queueStep pq) Alone d d' ∧ d'.added = d.added ∧
    d'.processedCalls.Perm (List.range d.added.length)

/-- No producer gets a record between the unlock of the worker and its reading of `r->p`. -/
def LeavesRecord (d : WorkerQueue V) : QueueAction V → Prop
  | .add _ | .addDelayed _ _ => ∀ r p, d.worker ≠ .unlocked r p
  | _ => True

/-! ### The invariant -/

namespace WorkerQueue

structure Consistent (d : WorkerQueue V) : Prop where
  addresses : (d.q ++ d.delayed ++ d.freeList).Nodup
  allocated : ∀ r ∈ d.q ++ d.delayed ++ d.freeList, r < d.allocated
  account : (d.line ++ d.calls d.delayed).Perm (List.range d.added.length)
  order : d.line.Pairwise d.Precedes
  value : ∀ r ∈ d.inHand ++ d.q, d.added[(d.memory r).call]?.map Prod.fst = some (d.memory r).p
  delayed : ∀ r ∈ d.delayed, d.added[(d.memory r).call]? = some ((d.memory r).p, some (d.memory r).time)
  due : ∀ n ∈ d.line, ∀ t, d.deadline n = some t → t ≤ d.now ∧ ∀ r ∈ d.delayed, t ≤ d.time r
  processed : ∀ e ∈ d.processed, d.added[e.call]?.map Prod.fst = some e.p ∧ ∀ t, d.deadline e.call = some t → t ≤ e.now

/-- A worker that is not signalled has nothing to do until the time for which it waits. -/
def Asleep (d : WorkerQueue V) : Prop :=
  ∀ time, d.worker = .waiting time false → d.q = [] ∧ (time = none → d.delayed = []) ∧
    ∀ t, time = some t → ∀ r ∈ d.delayed, t ≤ d.time r

variable {d : WorkerQueue V} {pq : PriorityQueue ℕ} {p : V}

lemma in_hand_of_not_unlocked (h : ∀ r p, d.worker ≠ .unlocked r p) : d.inHand = [] := by
  rw [inHand]
  split
  · rename_i hw
    exact absurd hw (h _ _)
  · rfl

lemma Consistent.line_lt (h : Consistent d) {n : ℕ} (hn : n ∈ d.line ++ d.calls d.delayed) : n < d.added.length :=
  List.mem_range.mp (h.account.subset hn)

/-! ### Another call -/

/-- A record that is not in use is filled for the next call. -/
structure Filled (d : WorkerQueue V) (r : ℕ) (x : V × Option ℤ) (d' : WorkerQueue V) : Prop where
  added : d'.added = d.added ++ [x]
  call : (d'.memory r).call = d.added.length
  p : (d'.memory r).p = x.1
  other : ∀ a, a ≠ r → d'.memory a = d.memory a
  processed : d'.processed = d.processed
  inHand : d'.inHand = []
  now : d'.now = d.now
  addresses : (r :: (d.q ++ d.delayed ++ d'.freeList)).Nodup
  allocated : ∀ a ∈ r :: (d.q ++ d.delayed ++ d'.freeList), a < d'.allocated

namespace Filled

variable {d' : WorkerQueue V} {r n : ℕ} {x : V × Option ℤ}

lemma ne (h : Filled d r x d') {a : ℕ} (ha : a ∈ d.q ++ d.delayed) : a ≠ r := by
  rintro rfl
  exact (List.nodup_cons.mp h.addresses).1 (List.mem_append_left _ ha)

lemma calls_eq (h : Filled d r x d') {l : List ℕ} (hl : ∀ a ∈ l, a ∈ d.q ++ d.delayed) : d'.calls l = d.calls l := by
  apply List.map_congr_left
  intro a ha
  rw [h.other a (h.ne (hl a ha))]

lemma calls_q (h : Filled d r x d') : d'.calls d.q = d.calls d.q := h.calls_eq fun _ => List.mem_append_left _

lemma calls_delayed (h : Filled d r x d') : d'.calls d.delayed = d.calls d.delayed :=
  h.calls_eq fun _ => List.mem_append_right _

lemma processed_calls (h : Filled d r x d') : d'.processedCalls = d.processedCalls := by
  rw [processedCalls, h.processed, processedCalls]

lemma added_lt (h : Filled d r x d') (hn : n < d.added.length) : d'.added[n]? = d.added[n]? := by
  rw [h.added, List.getElem?_append_left hn]

lemma added_new (h : Filled d r x d') : d'.added[d.added.length]? = some x := by
  rw [h.added, List.getElem?_concat_length]

lemma deadline_lt (h : Filled d r x d') (hn : n < d.added.length) : d'.deadline n = d.deadline n := by
  rw [deadline, h.added_lt hn, deadline]

lemma deadline_new (h : Filled d r x d') : d'.deadline d.added.length = x.2 := by
  rw [deadline, h.added_new, Option.bind_some]

lemma range_length (h : Filled d r x d') : List.range d'.added.length = List.range d.added.length ++ [d.added.length] := by
  rw [h.added, List.length_append, List.length_singleton, List.range_succ]

lemma precedes (h : Filled d r x d') {m : ℕ} (hm : m < d.added.length) (hn : n < d.added.length)
    (hp : d.Precedes m n) : d'.Precedes m n := by
  rw [Precedes, h.deadline_lt hm, h.deadline_lt hn]
  exact hp

lemma processed_fact (h : Filled d r x d') (hc : Consistent d) (e : Processed V) (he : e ∈ d'.processed) :
    d'.added[e.call]?.map Prod.fst = some e.p ∧ ∀ t, d'.deadline e.call = some t → t ≤ e.now := by
  rw [h.processed] at he
  have hlt : e.call < d.added.length :=
    hc.line_lt (List.mem_append_left _ (List.mem_append_left _ (List.mem_map_of_mem he)))
  rw [h.added_lt hlt, h.deadline_lt hlt]
  exact hc.processed e he

lemma call_lt (hc : Consistent d) {a : ℕ} (ha : a ∈ d.q ++ d.delayed) : (d.memory a).call < d.added.length := by
  apply hc.line_lt
  rcases List.mem_append.mp ha with ha | ha
  · exact List.mem_append_left _ (List.mem_append_right _ (List.mem_map_of_mem (List.mem_append_right _ ha)))
  · exact List.mem_append_right _ (List.mem_map_of_mem ha)

lemma add_q (h : Filled d r x d') (hc : Consistent d) (hw : d.inHand = []) (hq : d'.q = d.q ++ [r])
    (hd : d'.delayed = d.delayed) (hx : x.2 = none) : Consistent d' := by
  have hline : d'.line = d.line ++ [d.added.length] := by
    rw [line, line, h.processed_calls, h.inHand, hw, hq, List.nil_append, List.nil_append, calls, List.map_append,
      ← calls, h.calls_q, List.map_singleton, h.call, List.append_assoc]
  have hperm : (d'.q ++ d'.delayed ++ d'.freeList).Perm (r :: (d.q ++ d.delayed ++ d'.freeList)) := by
    rw [hq, hd, List.append_assoc, List.append_assoc, List.append_assoc]
    exact List.perm_middle
  have hlt {n : ℕ} (hn : n ∈ d.line) : n < d.added.length := hc.line_lt (List.mem_append_left _ hn)
  constructor
  · exact hperm.nodup_iff.mpr h.addresses
  · exact fun a ha => h.allocated a (hperm.subset ha)
  · rw [hline, hd, h.calls_delayed, h.range_length, List.append_assoc]
    exact (List.perm_append_comm.append_left _).trans (by rw [← List.append_assoc]; exact hc.account.append_right _)
  · rw [hline, List.pairwise_append]
    refine ⟨hc.order.imp_of_mem fun hm hn => h.precedes (hlt hm) (hlt hn), List.pairwise_singleton _ _, ?_⟩
    rintro m hm n hn
    obtain rfl := List.mem_singleton.mp hn
    rw [Precedes, h.deadline_new, hx]
    cases d'.deadline m with
    | none => exact hlt hm
    | some t => trivial
  · rw [h.inHand, hq, List.nil_append]
    intro a ha
    rcases List.mem_append.mp ha with ha | ha
    · have ha' : a ∈ d.q ++ d.delayed := List.mem_append_left _ ha
      rw [h.other a (h.ne ha'), h.added_lt (call_lt hc ha')]
      exact hc.value a (List.mem_append_right _ ha)
    · obtain rfl := List.mem_singleton.mp ha
      rw [h.call, h.added_new, h.p]
      rfl
  · rw [hd]
    intro a ha
    have ha' : a ∈ d.q ++ d.delayed := List.mem_append_right _ ha
    rw [h.other a (h.ne ha'), h.added_lt (call_lt hc ha')]
    exact hc.delayed a ha
  · rw [hline, hd, h.now]
    intro n hn t ht
    rcases List.mem_append.mp hn with hn | hn
    · rw [h.deadline_lt (hlt hn)] at ht
      refine ⟨(hc.due n hn t ht).1, fun a ha => ?_⟩
      rw [time, h.other a (h.ne (List.mem_append_right _ ha))]
      exact (hc.due n hn t ht).2 a ha
    · obtain rfl := List.mem_singleton.mp hn
      rw [h.deadline_new, hx] at ht
      cases ht
  · exact h.processed_fact hc

lemma add_delayed (h : Filled d r x d') (hc : Consistent d) (hw : d.inHand = []) (hq : d'.q = d.q)
    (hd : d'.delayed = r :: d.delayed) (hx : x.2 = some (d'.memory r).time) (hnow : d.now < (d'.memory r).time) :
    Consistent d' := by
  have hline : d'.line = d.line := by
    rw [line, line, h.processed_calls, h.inHand, hw, hq, List.nil_append, h.calls_q]
  have hperm : (d'.q ++ d'.delayed ++ d'.freeList).Perm (r :: (d.q ++ d.delayed ++ d'.freeList)) := by
    rw [hq, hd, List.append_assoc, List.append_assoc, List.cons_append]
    exact List.perm_middle
  have hlt {n : ℕ} (hn : n ∈ d.line) : n < d.added.length := hc.line_lt (List.mem_append_left _ hn)
  constructor
  · exact hperm.nodup_iff.mpr h.addresses
  · exact fun a ha => h.allocated a (hperm.subset ha)
  · rw [hline, hd, calls, List.map_cons, ← calls, h.calls_delayed, h.call, h.range_length]
    exact List.perm_middle.trans ((hc.account.cons _).trans (List.perm_append_singleton _ _).symm)
  · rw [hline]
    exact hc.order.imp_of_mem fun hm hn => h.precedes (hlt hm) (hlt hn)
  · rw [h.inHand, hq, List.nil_append]
    intro a ha
    have ha' : a ∈ d.q ++ d.delayed := List.mem_append_left _ ha
    rw [h.other a (h.ne ha'), h.added_lt (call_lt hc ha')]
    exact hc.value a (List.mem_append_right _ ha)
  · rw [hd]
    intro a ha
    rcases List.mem_cons.mp ha with rfl | ha
    · rw [h.call, h.added_new, h.p, ← hx]
    · have ha' : a ∈ d.q ++ d.delayed := List.mem_append_right _ ha
      rw [h.other a (h.ne ha'), h.added_lt (call_lt hc ha')]
      exact hc.delayed a ha
  · rw [hline, hd, h.now]
    intro n hn t ht
    rw [h.deadline_lt (hlt hn)] at ht
    obtain ⟨hle, hdelayed⟩ := hc.due n hn t ht
    refine ⟨hle, fun a ha => ?_⟩
    rcases List.mem_cons.mp ha with rfl | ha
    · exact hle.trans hnow.le
    · rw [time, h.other a (h.ne (List.mem_append_right _ ha))]
      exact hdelayed a ha
  · exact h.processed_fact hc

end Filled

lemma obtain_record (h : Consistent d) (p : V) (delayInMs : ℤ) : ∃ r freeList allocated,
    d.obtainRecord p delayInMs = (r, { d with freeList := freeList, allocated := allocated }.fill r p delayInMs) ∧
      (r :: (d.q ++ d.delayed ++ freeList)).Nodup ∧ ∀ a ∈ r :: (d.q ++ d.delayed ++ freeList), a < allocated := by
  have haddresses := h.addresses
  have hallocated := h.allocated
  rw [obtainRecord]
  cases hf : d.freeList with
  | nil =>
    rw [hf, List.append_nil] at haddresses hallocated
    refine ⟨d.allocated, [], d.allocated + 1, rfl, ?_, ?_⟩
    · rw [List.append_nil]
      exact List.nodup_cons.mpr ⟨fun hr => Nat.lt_irrefl _ (hallocated _ hr), haddresses⟩
    · rw [List.append_nil]
      intro a ha
      rcases List.mem_cons.mp ha with rfl | ha
      · exact Nat.lt_succ_self _
      · exact Nat.lt_succ_of_lt (hallocated a ha)
  | cons r free =>
    rw [hf] at haddresses hallocated
    exact ⟨r, free, d.allocated, rfl, List.perm_middle.nodup_iff.mp haddresses,
      fun a ha => hallocated a (List.perm_middle.symm.subset ha)⟩

lemma Consistent.frame (h : Consistent d) (state : ThreadState) (worker : WorkerPc V) {now : ℤ} (hnow : d.now ≤ now)
    (hw : { d with state := state, worker := worker, now := now }.inHand = d.inHand) :
    Consistent { d with state := state, worker := worker, now := now } := by
  have hline : { d with state := state, worker := worker, now := now }.line = d.line := by
    rw [line, line, hw]
    rfl
  refine ⟨h.addresses, h.allocated, hline ▸ h.account, hline ▸ h.order, hw ▸ h.value, h.delayed, ?_, h.processed⟩
  intro n hn t ht
  obtain ⟨hle, hdelayed⟩ := h.due n (hline ▸ hn) t ht
  exact ⟨hle.trans hnow, hdelayed⟩

lemma signal_in_hand (d : WorkerQueue V) : d.signal.inHand = d.inHand := by
  rw [signal]
  split
  · rename_i hw
    rw [inHand, inHand, hw]
  · rfl

lemma Consistent.signal (h : Consistent d) : Consistent d.signal := by
  have hw := signal_in_hand d
  rw [WorkerQueue.signal] at hw ⊢
  split at hw
  · exact h.frame d.state _ le_rfl hw
  · exact h

lemma fill_filled (hw : d.inHand = []) {r allocated : ℕ} {freeList : List ℕ}
    (hn : (r :: (d.q ++ d.delayed ++ freeList)).Nodup) (hlt : ∀ a ∈ r :: (d.q ++ d.delayed ++ freeList), a < allocated)
    (p : V) (delayInMs : ℤ) (t : Option ℤ) (q delayed : List ℕ) :
    Filled d r (p, t) { { d with freeList := freeList, allocated := allocated }.fill r p delayInMs with
      q := q, delayed := delayed, added := d.added ++ [(p, t)] } := by
  have hself : Function.update d.memory r
      { time := if delayInMs ≠ 0 then d.now + delayInMs else 0, p := p, call := d.added.length } r = _ :=
    Function.update_self _ _ _
  exact {
    added := rfl
    call := congrArg Record.call hself
    p := congrArg Record.p hself
    other := fun a ha => Function.update_of_ne ha _ _
    processed := rfl
    inHand := hw
    now := rfl
    addresses := hn
    allocated := hlt }

lemma Consistent.add (h : Consistent d) (hw : d.inHand = []) (p : V) : Consistent (d.add p) := by
  obtain ⟨r, freeList, allocated, ho, hn, hlt⟩ := obtain_record h p 0
  have hadd := (fill_filled hw hn hlt p 0 none (d.q ++ [r]) d.delayed).add_q h hw rfl rfl rfl
  rw [WorkerQueue.add, ho]
  dsimp only
  split
  · exact hadd.signal
  · exact hadd

lemma Consistent.addDelayed (h : Consistent d) (hw : d.inHand = []) (p : V) (delayInMs : Int32) :
    Consistent (d.addDelayed pq p delayInMs) := by
  rw [WorkerQueue.addDelayed]
  split
  · exact h.add hw p
  · rename_i hpos
    have hpos : 0 < delayInMs.toInt := by
      simpa [Int32.le_iff_toInt_le] using hpos
    obtain ⟨r, freeList, allocated, ho, hn, hlt⟩ := obtain_record h p delayInMs.toInt
    have hf := fill_filled hw hn hlt p delayInMs.toInt (some (d.now + delayInMs.toInt)) d.q (r :: d.delayed)
    have htime : d.now + delayInMs.toInt = if delayInMs.toInt ≠ 0 then d.now + delayInMs.toInt else 0 :=
      (if_pos hpos.ne').symm
    have hnow : d.now < d.now + delayInMs.toInt := Int.lt_add_of_pos_right _ hpos
    have hadd := hf.add_delayed h hw rfl rfl (by simp [fill, hpos.ne']) (by simpa [fill, ← htime] using hnow)
    rw [ho]
    dsimp only
    split
    · exact hadd.signal
    · exact hadd

/-! ### The worker -/

lemma Consistent.deadline_of_delayed (h : Consistent d) {r : ℕ} (hr : r ∈ d.delayed) :
    d.deadline (d.memory r).call = some (d.time r) := by
  rw [deadline, h.delayed r hr]
  rfl

lemma Consistent.move (h : Consistent d) (hq : d.q = []) {due rest : List ℕ} (hperm : (due ++ rest).Perm d.delayed)
    (hsorted : due.Pairwise fun a b => d.time a ≤ d.time b) (hdue : ∀ r ∈ due, d.time r ≤ d.now)
    (hrest : ∀ r ∈ rest, d.now < d.time r) : Consistent { d with q := due, delayed := rest } := by
  have hmem {r : ℕ} (hr : r ∈ due) : r ∈ d.delayed := hperm.subset (List.mem_append_left _ hr)
  have hline : { d with q := due, delayed := rest }.line = d.line ++ d.calls due := by
    simp [line, hq, calls, inHand, processedCalls]
  have haddresses : (due ++ rest ++ d.freeList).Perm (d.q ++ d.delayed ++ d.freeList) := by
    rw [hq]
    exact hperm.append_right d.freeList
  constructor
  · exact haddresses.nodup_iff.mpr h.addresses
  · exact fun a ha => h.allocated a (haddresses.subset ha)
  · rw [hline, List.append_assoc]
    refine List.Perm.trans (List.Perm.append_left _ ?_) h.account
    have hmap := hperm.map fun r => (d.memory r).call
    rwa [List.map_append] at hmap
  · rw [hline, List.pairwise_append]
    refine ⟨h.order, ?_, ?_⟩
    · rw [calls, List.pairwise_map]
      refine hsorted.imp_of_mem fun ha hb hle => ?_
      have hda := h.deadline_of_delayed (hmem ha)
      have hdb := h.deadline_of_delayed (hmem hb)
      rw [deadline] at hda hdb
      simpa only [Precedes, deadline, hda, hdb] using hle
    · intro m hm n hn
      obtain ⟨r, hr, rfl⟩ := List.mem_map.mp hn
      have hdr := h.deadline_of_delayed (hmem hr)
      have hdm := h.due m hm
      rw [deadline] at hdr hdm
      simp only [Precedes, deadline, hdr]
      cases hd : d.added[m]?.bind Prod.snd with
      | none => trivial
      | some t => exact (hdm t hd).2 r (hmem hr)
  · intro r hr
    rcases List.mem_append.mp hr with hr | hr
    · exact h.value r (List.mem_append_left _ hr)
    · exact congrArg _ (h.delayed r (hmem hr))
  · exact fun r hr => h.delayed r (hperm.subset (List.mem_append_right _ hr))
  · rw [hline]
    intro n hn t ht
    rcases List.mem_append.mp hn with hn | hn
    · obtain ⟨hle, hdelayed⟩ := h.due n hn t ht
      exact ⟨hle, fun r hr => hdelayed r (hperm.subset (List.mem_append_right _ hr))⟩
    · obtain ⟨r, hr, rfl⟩ := List.mem_map.mp hn
      obtain rfl := Option.some.inj ((h.deadline_of_delayed (hmem hr)).symm.trans ht)
      exact ⟨hdue r hr, fun a ha => (hdue r hr).trans (hrest a ha).le⟩
  · exact h.processed

lemma Consistent.moveDue (h : Consistent d) (hq : d.q = []) : Consistent (d.moveDue pq) := by
  rw [WorkerQueue.moveDue, hq, List.nil_append]
  exact h.move hq (pq.pop_due_perm _ _ _ _) (pq.pop_due_sorted _ _ _ _) (fun r => pq.le_of_pop_due)
    fun r => pq.lt_of_not_due le_rfl

lemma Consistent.take (h : Consistent d) (hw : d.inHand = []) {r : ℕ} {q : List ℕ} (hq : d.q = r :: q) (p : V) :
    Consistent ({ d with q := q, worker := .unlocked r p }.releaseRecord r) := by
  have hline : ({ d with q := q, worker := .unlocked r p }.releaseRecord r).line = d.line := by
    rw [line, line, hw, hq]
    rfl
  have haddresses : (q ++ d.delayed ++ r :: d.freeList).Perm (d.q ++ d.delayed ++ d.freeList) := by
    rw [hq]
    exact List.perm_middle
  refine ⟨haddresses.nodup_iff.mpr h.addresses, fun a ha => h.allocated a (haddresses.subset ha), hline ▸ h.account,
    hline ▸ h.order, ?_, h.delayed, ?_, h.processed⟩
  · have hvalue := h.value
    rw [hw, hq] at hvalue
    exact hvalue
  · rw [hline]
    exact h.due

lemma Consistent.takeOrWait (h : Consistent d) (hw : d.inHand = []) : Consistent (d.takeOrWait pq) := by
  rw [WorkerQueue.takeOrWait]
  split
  · exact h.take hw ‹_› _
  · exact h.frame d.state _ le_rfl hw.symm

lemma Consistent.work (h : Consistent d) (hw : d.inHand = []) : Consistent (d.work pq) := by
  rw [WorkerQueue.work]
  split
  · exact h.frame d.state .loop le_rfl hw.symm
  · split
    · exact (h.moveDue ‹_›).takeOrWait hw
    · exact h.takeOrWait hw

lemma Consistent.process (h : Consistent d) {r : ℕ} (hw : d.inHand = [r]) : Consistent (d.process r) := by
  have hmem : (d.memory r).call ∈ d.line :=
    List.mem_append_right _ (List.mem_map_of_mem (List.mem_append_left _ (by simp [hw])))
  have hline : (d.process r).line = d.line := by
    rw [line, line, hw]
    simp [WorkerQueue.process, processedCalls, calls, inHand]
  refine ⟨h.addresses, h.allocated, hline ▸ h.account, hline ▸ h.order, ?_, h.delayed, hline ▸ h.due, ?_⟩
  · exact fun a ha => h.value a (List.mem_append_right _ ha)
  · intro e he
    rcases List.mem_append.mp he with he | he
    · exact h.processed e he
    · obtain rfl := List.mem_singleton.mp he
      exact ⟨h.value r (List.mem_append_left _ (by simp [hw])), fun t ht => (h.due _ hmem t ht).1⟩

end WorkerQueue

open WorkerQueue

variable {d d' : WorkerQueue V} {pq : PriorityQueue ℕ} {a : QueueAction V}

lemma consistent_step (h : d.Consistent) (ha : LeavesRecord d a) (hs : queueStep pq d a = some d') :
    d'.Consistent := by
  cases a with
  | run =>
    obtain ⟨-, ⟨⟩⟩ := Option.ite_none_right_eq_some.mp hs
    exact h.frame .running d.worker le_rfl rfl
  | add p =>
    cases hs
    exact h.add (in_hand_of_not_unlocked ha) p
  | addDelayed p delayInMs =>
    cases hs
    exact h.addDelayed (in_hand_of_not_unlocked ha) p delayInMs
  | beginStopping =>
    obtain ⟨-, ⟨⟩⟩ := Option.ite_none_right_eq_some.mp hs
    exact h.frame .stopping d.worker le_rfl rfl
  | waitUntilStopped =>
    obtain ⟨-, ⟨⟩⟩ := Option.ite_none_right_eq_some.mp hs
    exact h.signal
  | tick ms =>
    cases hs
    exact h.frame d.state d.worker (Int.le_add_of_nonneg_right (Int.natCast_nonneg ms)) rfl
  | enter =>
    rw [queueStep] at hs
    split at hs
    · rename_i hw _
      cases hs
      exact h.work (by rw [inHand, hw])
    · cases hs
      exact h.frame .stopped d.worker le_rfl rfl
    · cases hs
  | wake =>
    rw [queueStep] at hs
    split at hs
    · rename_i hw
      cases hs
      exact h.work (by rw [inHand, hw])
    · cases hs
  | process =>
    rw [queueStep] at hs
    split at hs
    · rename_i hw
      cases hs
      exact h.process (by rw [inHand, hw])
    · cases hs

lemma asleep_signal (d : WorkerQueue V) : d.signal.Asleep := by
  rw [signal]
  split
  · nofun
  · rename_i hw
    intro time ht
    exact absurd ht (hw time false)

lemma asleep_add (hd : d.Consistent) (h : d.Asleep) (p : V) : (d.add p).Asleep := by
  obtain ⟨r, freeList, allocated, ho, -, -⟩ := obtain_record hd p 0
  rw [add, ho]
  dsimp only
  split
  · exact asleep_signal _
  · rename_i hlen
    intro time ht
    refine absurd ?_ hlen
    rw [List.length_append]
    exact congrArg (fun q : List ℕ => q.length + 1) (h time ht).1

lemma asleep_add_delayed (hd : d.Consistent) (h : d.Asleep) (p : V) (delayInMs : Int32) :
    (d.addDelayed pq p delayInMs).Asleep := by
  rw [addDelayed]
  split
  · exact asleep_add hd h p
  · obtain ⟨r, freeList, allocated, ho, hn, -⟩ := obtain_record hd p delayInMs.toInt
    have hsame {a : ℕ} (ha : a ∈ d.delayed) :
        ({ d with freeList := freeList, allocated := allocated }.fill r p delayInMs.toInt).time a = d.time a := by
      have hne : a ≠ r := by
        rintro rfl
        exact (List.nodup_cons.mp hn).1 (List.mem_append_left _ (List.mem_append_right _ ha))
      exact congrArg Record.time (Function.update_of_ne hne _ _)
    rw [ho]
    dsimp only
    split
    · exact asleep_signal _
    · rename_i htop
      intro time ht
      obtain ⟨hq, hnone, hsome⟩ := h time ht
      -- the top is another record, for which the worker waits already
      cases hb : pq.top ({ d with freeList := freeList, allocated := allocated }.fill r p delayInMs.toInt).time
          (r :: d.delayed) with
      | none => cases pq.nil_of_top hb
      | some b =>
        have hbr : b ≠ r := by
          rintro rfl
          exact htop ⟨hq, hb⟩
        have hbd : b ∈ d.delayed := (List.mem_cons.mp (pq.mem_of_top hb)).resolve_left hbr
        refine ⟨hq, ?_, ?_⟩
        · intro htime
          rw [hnone htime] at hbd
          cases hbd
        · intro t htime a ha
          rcases List.mem_cons.mp ha with rfl | ha
          · exact (hsome t htime b hbd).trans (hsame hbd ▸ pq.le_of_top hb List.mem_cons_self)
          · exact (hsome t htime a ha).trans_eq (hsame ha).symm

lemma asleep_take_or_wait (d : WorkerQueue V) : (d.takeOrWait pq).Asleep := by
  rw [takeOrWait]
  split
  · nofun
  · rename_i hq
    intro time ht
    obtain ⟨rfl, -⟩ := WorkerPc.waiting.inj ht
    refine ⟨hq, ?_, ?_⟩
    · intro htime
      exact pq.nil_of_top (Option.map_eq_none_iff.mp htime)
    · intro t htime r hr
      obtain ⟨r', htop, rfl⟩ := Option.map_eq_some_iff.mp htime
      exact pq.le_of_top htop hr

lemma asleep_work (d : WorkerQueue V) : (d.work pq).Asleep := by
  rw [work]
  split
  · nofun
  · split
    · exact asleep_take_or_wait _
    · exact asleep_take_or_wait _

lemma asleep_step (hd : d.Consistent) (h : d.Asleep) (hs : queueStep pq d a = some d') : d'.Asleep := by
  cases a with
  | run =>
    obtain ⟨-, ⟨⟩⟩ := Option.ite_none_right_eq_some.mp hs
    exact h
  | add p =>
    cases hs
    exact asleep_add hd h p
  | addDelayed p delayInMs =>
    cases hs
    exact asleep_add_delayed hd h p delayInMs
  | beginStopping =>
    obtain ⟨-, ⟨⟩⟩ := Option.ite_none_right_eq_some.mp hs
    exact h
  | waitUntilStopped =>
    obtain ⟨-, ⟨⟩⟩ := Option.ite_none_right_eq_some.mp hs
    exact asleep_signal d
  | tick ms =>
    cases hs
    exact h
  | enter =>
    rw [queueStep] at hs
    split at hs
    · cases hs
      exact asleep_work d
    · rename_i hw _
      cases hs
      intro time ht
      cases hw.symm.trans ht
    · cases hs
  | wake =>
    rw [queueStep] at hs
    split at hs
    · cases hs
      exact asleep_work d
    · cases hs
  | process =>
    rw [queueStep] at hs
    split at hs
    · cases hs
      nofun
    · cases hs

/-! ### Runs -/

/-- Before the first call the records are arbitrary memory. -/
def WorkerQueue.start (memory : ℕ → Record V) : WorkerQueue V := { memory := memory }

lemma consistent_start (memory : ℕ → Record V) : (start memory).Consistent where
  addresses := .nil
  allocated := nofun
  account := .refl _
  order := .nil
  value := nofun
  delayed := nofun
  due := nofun
  processed := nofun

lemma invariant_of_reaches {memory : ℕ → Record V} (h : Reaches (queueStep pq) LeavesRecord (start memory) d) :
    d.Consistent ∧ d.Asleep := by
  induction h with
  | refl => exact ⟨consistent_start memory, nofun⟩
  | tail _ ha hs ih => exact ⟨consistent_step ih.1 ha hs, asleep_step ih.1 ih.2 hs⟩

/-! ### The order of the line -/

lemma processed_before (h : d.Consistent) {m n : ℕ} (hm : m < d.added.length) (hmn : m ≠ n)
    (hdelayed : m ∈ d.calls d.delayed → n ∉ d.processedCalls) (hafter : ¬d.Precedes n m) : d.ProcessedBefore m n := by
  intro earlier later heq
  have hline : d.line = earlier ++ n :: (later ++ d.calls (d.inHand ++ d.q)) := by
    rw [line, heq, List.append_assoc, List.cons_append]
  have hmem : m ∈ d.line ++ d.calls d.delayed := h.account.symm.subset (List.mem_range.mpr hm)
  rcases List.mem_append.mp hmem with hmem | hmem
  · have horder := h.order
    rw [hline] at hmem horder
    rcases List.mem_append.mp hmem with hmem | hmem
    · exact hmem
    · rcases List.mem_cons.mp hmem with rfl | hmem
      · exact absurd rfl hmn
      · exact absurd ((List.pairwise_cons.mp (List.pairwise_append.mp horder).2.1).1 m hmem) hafter
  · exact absurd (heq ▸ List.mem_append_right _ List.mem_cons_self) (hdelayed hmem)

lemma in_order (h : d.Consistent) {m n : ℕ} (hmn : m < n) (hn : n < d.added.length) (hdm : d.deadline m = none)
    (hdn : d.deadline n = none) : d.ProcessedBefore m n := by
  apply processed_before h (hmn.trans hn) hmn.ne
  · intro hm
    obtain ⟨r, hr, rfl⟩ := List.mem_map.mp hm
    cases hdm.symm.trans (h.deadline_of_delayed hr)
  · rw [Precedes, hdm, hdn]
    exact hmn.not_gt

lemma by_deadline (h : d.Consistent) {m n : ℕ} {s t : ℤ} (hdm : d.deadline m = some s) (hdn : d.deadline n = some t)
    (hst : s < t) : d.ProcessedBefore m n := by
  apply processed_before h
  · obtain ⟨x, hx, -⟩ := Option.bind_eq_some_iff.mp hdm
    exact (List.getElem?_eq_some_iff.mp hx).1
  · rintro rfl
    exact hst.ne (Option.some.inj (hdm.symm.trans hdn))
  · intro hm hn
    obtain ⟨r, hr, rfl⟩ := List.mem_map.mp hm
    obtain rfl := Option.some.inj ((h.deadline_of_delayed hr).symm.trans hdm)
    exact hst.not_ge ((h.due n (List.mem_append_left _ hn) t hdn).2 r hr)
  · rw [Precedes, hdm, hdn]
    exact hst.not_ge

/-! ### The worker alone -/

lemma alone_leaves_record (d : WorkerQueue V) (a : QueueAction V) (h : Alone d a) : LeavesRecord d a := by
  cases a with
  | add | addDelayed => cases h
  | _ => trivial

lemma work_takes (pq : PriorityQueue ℕ) (hs : d.state = .running) (hdue : ∀ r ∈ d.delayed, d.time r ≤ d.now) (hne : d.q ++ d.delayed ≠ []) :
    ∃ r p, (d.work pq).worker = .unlocked r p ∧ (d.work pq).state = .running ∧ (d.work pq).added = d.added ∧
      (d.work pq).q.length + (d.work pq).delayed.length < d.q.length + d.delayed.length := by
  rw [work, if_neg (not_not.mpr hs)]
  split
  · rename_i hq
    have hperm := pq.pop_due_perm d.time d.now d.delayed.length d.delayed
    have hrest : (pq.popDue d.time d.now d.delayed.length d.delayed).2 = [] := by
      refine List.eq_nil_iff_forall_not_mem.mpr fun r hr => ?_
      have hmem := hperm.subset (List.mem_append_right _ hr)
      exact (hdue r hmem).not_gt (pq.lt_of_not_due le_rfl hr)
    rw [hq, List.nil_append] at hne
    rw [hrest, List.append_nil] at hperm
    rw [moveDue, hq, List.nil_append, hrest]
    cases hmoved : (pq.popDue d.time d.now d.delayed.length d.delayed).1 with
    | nil =>
      rw [hmoved] at hperm
      exact absurd hperm.nil_eq.symm hne
    | cons r moved =>
      refine ⟨r, _, rfl, hs, rfl, ?_⟩
      rw [← hperm.length_eq, hmoved]
      simp [takeOrWait, releaseRecord]
  · rename_i hq
    obtain ⟨r, q, hq'⟩ := List.exists_cons_of_ne_nil hq
    rw [takeOrWait, hq']
    exact ⟨r, _, rfl, hs, rfl, by simp [releaseRecord]⟩

lemma process_in_hand (pq : PriorityQueue ℕ) (hs : d.state = .running) : ∃ d', Reaches (queueStep pq) Alone d d' ∧ d'.state = .running ∧
    d'.inHand = [] ∧ d'.added = d.added ∧ d'.q = d.q ∧ d'.delayed = d.delayed := by
  cases hw : d.worker with
  | unlocked r p =>
    refine ⟨d.process r, .tail (a := .process) .refl trivial ?_, hs, rfl, rfl, rfl, rfl⟩
    rw [queueStep, hw]
  | _ => exact ⟨d, .refl, hs, by rw [inHand, hw], rfl, rfl, rfl⟩

lemma exists_later (d : WorkerQueue V) (l : List ℕ) : ∃ ms : ℕ, ∀ r ∈ l, d.time r ≤ d.now + ms := by
  induction l with
  | nil => exact ⟨0, nofun⟩
  | cons r l ih =>
    obtain ⟨ms, hms⟩ := ih
    refine ⟨max ms (d.time r - d.now).toNat, fun a ha => ?_⟩
    rcases List.mem_cons.mp ha with rfl | ha
    · omega
    · have hle := hms a ha
      omega

lemma process_next (pq : PriorityQueue ℕ) (hs : d.state = .running) (hw : d.inHand = []) (hne : d.q ++ d.delayed ≠ []) :
    ∃ d', Reaches (queueStep pq) Alone d d' ∧ d'.state = .running ∧ d'.inHand = [] ∧ d'.added = d.added ∧
      d'.q.length + d'.delayed.length < d.q.length + d.delayed.length := by
  obtain ⟨ms, hdue⟩ := exists_later d d.delayed
  have htick : Reaches (queueStep pq) Alone d (d.tick ms) := .tail (a := .tick ms) .refl trivial rfl
  have hwork : Reaches (queueStep pq) Alone d ((d.tick ms).work pq) := by
    cases hpc : d.worker with
    | loop =>
      refine htick.tail (a := .enter) trivial ?_
      rw [queueStep, show (d.tick ms).worker = .loop from hpc, show (d.tick ms).state = .running from hs]
    | waiting time signalled =>
      refine htick.tail (a := .wake) trivial ?_
      rw [queueStep, show (d.tick ms).worker = .waiting time signalled from hpc]
    | unlocked r p =>
      rw [inHand, hpc] at hw
      cases hw
  obtain ⟨r, p, hunlocked, hs', hadded, hlt⟩ := work_takes (d := d.tick ms) pq hs hdue hne
  obtain ⟨d', hprocess, hs'', hw', hadded', hq, hdelayed⟩ := process_in_hand pq hs'
  refine ⟨d', hwork.trans hprocess, hs'', hw', hadded'.trans hadded, ?_⟩
  rw [hq, hdelayed]
  exact hlt

lemma drain (pq : PriorityQueue ℕ) (n : ℕ) (hs : d.state = .running) (hn : d.q.length + d.delayed.length = n) :
    ∃ d', Reaches (queueStep pq) Alone d d' ∧ d'.added = d.added ∧ d'.inHand = [] ∧ d'.q = [] ∧ d'.delayed = [] := by
  obtain ⟨d₁, hr₁, hs₁, hw₁, hadded₁, hq₁, hdelayed₁⟩ := process_in_hand pq hs
  rw [← hq₁, ← hdelayed₁] at hn
  clear hq₁ hdelayed₁
  suffices h : ∃ d', Reaches (queueStep pq) Alone d₁ d' ∧ d'.added = d₁.added ∧ d'.inHand = [] ∧ d'.q = [] ∧
      d'.delayed = [] by
    obtain ⟨d', hr, hadded, hrest⟩ := h
    exact ⟨d', hr₁.trans hr, hadded.trans hadded₁, hrest⟩
  clear hr₁ hadded₁
  induction n using Nat.strong_induction_on generalizing d₁ with
  | h n ih =>
    by_cases hne : d₁.q ++ d₁.delayed = []
    · obtain ⟨hq, hdelayed⟩ := List.append_eq_nil_iff.mp hne
      exact ⟨d₁, .refl, rfl, hw₁, hq, hdelayed⟩
    · obtain ⟨d₂, hr₂, hs₂, hw₂, hadded₂, hlt⟩ := process_next pq hs₁ hw₁ hne
      obtain ⟨d', hr, hadded, hrest⟩ := ih _ (hn ▸ hlt) d₂ rfl hs₂ hw₂
      exact ⟨d', hr₂.trans hr, hadded.trans hadded₂, hrest⟩

/-- Where no producer takes the record that the worker has just released, every value is processed as it should. -/
theorem values_served (pq : PriorityQueue ℕ) (memory : ℕ → Record V) (d : WorkerQueue V)
    (h : Reaches (queueStep pq) LeavesRecord (start memory) d) : Served pq d := by
  obtain ⟨hd, hasleep⟩ := invariant_of_reaches h
  refine ⟨?_, ?_, ?_, ?_, ?_, hasleep, ?_⟩
  · have hperm := hd.account
    rw [line, List.append_assoc] at hperm
    rwa [calls, List.map_append]
  · exact fun e he => (hd.processed e he).1
  · exact fun e he => (hd.processed e he).2
  · exact fun m n hmn hn hdm hdn => in_order hd hmn hn hdm hdn
  · exact fun m n s t hdm hdn hst => by_deadline hd hdm hdn hst
  · intro hs
    obtain ⟨d', hr, hadded, hw, hq, hdelayed⟩ := drain pq _ hs rfl
    obtain ⟨hd', -⟩ := invariant_of_reaches (h.trans (hr.mono alone_leaves_record))
    refine ⟨d', hr, hadded, ?_⟩
    have hperm := hd'.account
    rw [line, hw, hq, hdelayed, hadded] at hperm
    simpa [calls] using hperm

/-- A delayed value comes behind one that is added later without a delay. -/
theorem values_served_delayed : ∃ d : WorkerQueue ℕ, Served (.first ℕ) d ∧ d.processedCalls = [1, 0] := by
  have hr : Reaches (queueStep (.first ℕ)) LeavesRecord (start fun _ => (⟨0, 0, 0⟩ : Record ℕ)) _ :=
    .tail (.tail (.tail (.tail (.tail (.tail (.tail (.tail (.tail .refl
      nofun (a := .addDelayed 7 5) rfl) trivial (a := .run) rfl) trivial (a := .enter) rfl)
      nofun (a := .add 8) rfl) trivial (a := .wake) rfl) trivial (a := .process) rfl)
      trivial (a := .tick 5) rfl) trivial (a := .enter) rfl) trivial (a := .process) rfl
  exact ⟨_, values_served _ _ _ hr, by decide⟩

/-- A producer takes the record between the unlock and `Process(r->p)`: the first value is lost, the second one is
processed in its place and is in the queue still. -/
theorem value_lost : ¬∀ (pq : PriorityQueue ℕ) (memory : ℕ → Record ℕ) (d : WorkerQueue ℕ),
    Reaches (queueStep pq) (fun _ _ => True) (start memory) d → Served pq d := by
  intro h
  have hr : Reaches (queueStep (.first ℕ)) (fun _ _ => True) (start fun _ => (⟨0, 0, 0⟩ : Record ℕ)) _ :=
    .tail (.tail (.tail (.tail (.tail .refl trivial (a := .run) rfl) trivial (a := .add 1) rfl) trivial (a := .enter) rfl)
      trivial (a := .add 2) rfl) trivial (a := .process) rfl
  have honce := (h _ _ _ hr).once
  exact absurd honce (by decide)

end Ril.Mock
