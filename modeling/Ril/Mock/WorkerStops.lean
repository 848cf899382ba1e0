import Mathlib.Tactic.Linarith
import Ril.Mock.Worker

/-! The worker thread that is stopped, and the times until which it waits. -/

namespace Ril.Mock

open Lib

variable {V : Type}

/-- The wait ends at the current time plus the time that is left to the earliest deadline. -/
structure TimedWait.Exact (w : TimedWait) : Prop where
  earliest : w.time ∈ w.deadlines ∧ ∀ t ∈ w.deadlines, w.time ≤ t
  wellFormed : w.ts.WellFormed
  nanos : w.ts.nanos = w.tv.nanos + (w.time - w.now) * 1000000

/-- A worker that waits without a time while it is to stop will be signalled. -/
structure Wakeful (d : WorkerThread V) : Prop where
  signalled : d.queue.state = .stopping → d.queue.worker = .waiting none false → d.signalling = true
  timed : ∀ w ∈ d.waits, w.Exact

/-- The worker has seen that it runs and will wait without a time. -/
def WorkerThread.Committed (d : WorkerThread V) : Prop :=
  d.runs = true ∧ (d.point = .testQueues ∧ d.queue.q = [] ∧ d.queue.delayed = [] ∨ d.point = .startWait none)

/-- The microseconds of the clock and of what is left to the earliest deadline stay below a second. -/
def NoCarry (d : WorkerQueue V) (tv : TimeVal) : Prop :=
  ∀ t ∈ d.delayed.map d.time, (∀ u ∈ d.delayed.map d.time, t ≤ u) → d.q = [] → d.now < t →
    tv.usec + (t - d.now) % 1000 * 1000 < 1000000

/-- `Stop` does not signal between the test of the worker and its wait, and no timed wait needs a carry. -/
def Meets (d : WorkerThread V) : WorkerAction V → Prop
  | .signal => ¬d.Committed
  | .testQueues tv => NoCarry d.queue tv
  | _ => True

/-- The worker goes on alone. -/
def ByItself (_ : WorkerThread V) : WorkerAction V → Prop
  | .testQueues _ | .startWait => True
  | _ => False

/-! ### The timespec -/

section

variable {tv : TimeVal} {delay : ℤ}

lemma nanos_after (tv : TimeVal) (delay : ℤ) : (tv.after delay).nanos = tv.nanos + delay * 1000000 := by
  have h := Int.tmod_add_tdiv_mul delay 1000
  rw [TimeSpec.nanos, TimeVal.nanos, TimeVal.after]
  dsimp only
  linarith

lemma after_well_formed (h : 0 ≤ delay) : (tv.after delay).WellFormed ↔ tv.usec + delay % 1000 * 1000 < 1000000 := by
  have hm := Int.emod_nonneg delay (by decide : (1000 : ℤ) ≠ 0)
  have hu := tv.usec_nonneg
  rw [TimeSpec.WellFormed, TimeVal.after, Int.tmod_eq_emod_of_nonneg h]
  dsimp only
  omega

end

/-! ### The queues -/

section

variable {pq : PriorityQueue ℕ} {d : WorkerQueue V} {r : ℕ}

/-- If no record was due, all of them are still delayed, and their deadlines are still to come. -/
lemma move_due_none (hq : (d.moveDue pq).q = []) : d.q = [] ∧ (d.moveDue pq).delayed.Perm d.delayed ∧
    ∀ a ∈ (d.moveDue pq).delayed, d.now < d.time a := by
  obtain ⟨hq, hdue⟩ := List.append_eq_nil_iff.mp hq
  refine ⟨hq, ?_, fun a ha => pq.lt_of_not_due le_rfl ha⟩
  have hperm := pq.pop_due_perm d.time d.now d.delayed.length d.delayed
  rwa [hdue, List.nil_append] at hperm

/-- The wait that is computed with a record at the top is exact if nothing is carried. -/
lemma timed_wait_exact {tv : TimeVal} (hq : (d.moveDue pq).q = [])
    (hr : pq.top (d.moveDue pq).time (d.moveDue pq).delayed = some r) :
    (WorkerThread.timedWait tv (d.moveDue pq) r).Exact ↔ NoCarry d tv := by
  obtain ⟨hd, hperm, hlater⟩ := move_due_none hq
  have hmem : r ∈ (d.moveDue pq).delayed := pq.mem_of_top hr
  have hleft : d.now < d.time r := hlater r hmem
  have hleast : ∀ u ∈ d.delayed.map d.time, d.time r ≤ u := by
    intro u hu
    obtain ⟨a, ha, rfl⟩ := List.mem_map.mp hu
    exact pq.le_of_top hr (hperm.symm.subset ha)
  have hwf : (tv.after (d.time r - d.now)).WellFormed ↔ _ := after_well_formed (by omega)
  constructor
  · intro h t ht hmin _ _
    obtain rfl : d.time r = t :=
      le_antisymm (hleast t ht) (hmin _ (List.mem_map_of_mem (hperm.subset hmem)))
    exact hwf.mp h.wellFormed
  · intro h
    refine ⟨⟨List.mem_map_of_mem hmem, fun u hu => hleast u ?_⟩, ?_, nanos_after tv _⟩
    · exact (hperm.map d.time).subset hu
    · exact hwf.mpr (h _ (List.mem_map_of_mem (hperm.subset hmem)) hleast hd hleft)

end

/-! ### The producers -/

/-- What a call of a producer leaves of the worker: it can at most signal a wait. -/
structure Produces (d d' : WorkerQueue V) : Prop where
  state : d'.state = d.state
  worker : d'.worker = d.worker ∨ ∃ time s, d.worker = .waiting time s ∧ d'.worker = .waiting time true

section

variable {d d' e : WorkerQueue V} {pq : PriorityQueue ℕ}

lemma produces_signal (hs : d'.state = d.state) (hw : d'.worker = d.worker) : Produces d d'.signal := by
  rw [WorkerQueue.signal]
  split
  · rename_i time s hwait
    exact ⟨hs, .inr ⟨time, s, hw ▸ hwait, rfl⟩⟩
  · exact ⟨hs, .inl hw⟩

lemma obtain_record_worker (d : WorkerQueue V) (p : V) (delayInMs : ℤ) :
    (d.obtainRecord p delayInMs).2.state = d.state ∧ (d.obtainRecord p delayInMs).2.worker = d.worker := by
  rw [WorkerQueue.obtainRecord]
  split <;> exact ⟨rfl, rfl⟩

lemma produces_add (d : WorkerQueue V) (p : V) : Produces d (d.add p) := by
  obtain ⟨hs, hw⟩ := obtain_record_worker d p 0
  rw [WorkerQueue.add]
  dsimp only
  split
  · exact produces_signal hs hw
  · exact ⟨hs, .inl hw⟩

lemma produces_add_delayed (d : WorkerQueue V) (p : V) (delayInMs : Int32) : Produces d (d.addDelayed pq p delayInMs) := by
  obtain ⟨hs, hw⟩ := obtain_record_worker d p delayInMs.toInt
  rw [WorkerQueue.addDelayed]
  split
  · exact produces_add d p
  · dsimp only
    split
    · exact produces_signal hs hw
    · exact ⟨hs, .inl hw⟩

end

/-! ### The invariant -/

namespace WorkerThread

/-- Until `Stop` signals, it may be what the worker waits for. -/
structure Orderly (d : WorkerThread V) : Prop where
  awake : d.queue.state = .stopping → d.signalling = false → ¬d.Committed ∧ d.queue.worker ≠ .waiting none false
  stops : d.signalling = true → d.queue.state = .stopping ∨ d.queue.state = .stopped
  stopped : d.queue.state = .stopped → d.runs = true ∧ d.point = .returned
  resumes : d.runs = false → d.point = .innerTest ∨ d.point = .outerTest
  computed : ∀ w, d.point = .startWait (some w) → w.Exact
  timed : ∀ w ∈ d.waits, w.Exact

variable {d d' : WorkerThread V} {pq : PriorityQueue ℕ}

lemma committed_holds_mutex (h : d.Committed) : d.holdsMutex = true := by
  obtain ⟨hr, ⟨hp, -⟩ | hp⟩ := h <;> rw [holdsMutex, hr, hp] <;> rfl

lemma Orderly.wakeful (h : Orderly d) : Wakeful d where
  signalled hs hw := by
    by_contra hn
    exact (h.awake hs (Bool.eq_false_iff.mpr hn)).2 hw
  timed := h.timed

/-- The queue is changed by others, while the worker does not have the mutex. -/
lemma Orderly.produces {queue : WorkerQueue V} (h : Orderly d) (hm : d.holdsMutex = false) (hq : Produces d.queue queue) :
    Orderly { d with queue := queue } := by
  have hruns : ({ d with queue := queue } : WorkerThread V).runs = d.runs := by
    rw [runs, runs]
    rcases hq.worker with hw | ⟨time, s, hw, hw'⟩
    · rw [hw]
    · rw [hw, hw']
  have hmutex : ({ d with queue := queue } : WorkerThread V).holdsMutex = false := by
    rw [holdsMutex, hruns]
    exact hm
  refine ⟨fun hs hn => ⟨fun hc => ?_, fun hw => ?_⟩, fun hn => ?_, fun hs => ?_, fun hr => ?_, h.computed, h.timed⟩
  · rw [committed_holds_mutex hc] at hmutex
    cases hmutex
  · rcases hq.worker with hw' | ⟨time, s, -, hw'⟩
    · exact (h.awake (hq.state ▸ hs) hn).2 (hw' ▸ hw)
    · cases hw'.symm.trans hw
  · rw [hq.state]
    exact h.stops hn
  · rw [hruns]
    exact h.stopped (hq.state ▸ hs)
  · exact h.resumes (hruns ▸ hr)

/-- `Stop` signals. -/
lemma Orderly.signal (h : Orderly d) (hc : ¬d.Committed) :
    Orderly { d with queue := d.queue.signal, signalling := false } := by
  rw [WorkerQueue.signal]
  split
  · rename_i time s hw
    have hr : d.runs = false := by rw [runs, hw]
    refine ⟨fun _ _ => ⟨fun hc' => (by cases hc'.1), fun hw' => (by cases hw')⟩, fun hn => (by cases hn), fun hs => ?_,
      fun _ => h.resumes hr, h.computed, h.timed⟩
    rw [(h.stopped hs).1] at hr
    cases hr
  · rename_i hw
    exact ⟨fun _ _ => ⟨hc, hw none false⟩, fun hn => (by cases hn), h.stopped, h.resumes, h.computed, h.timed⟩

/-- The worker goes on to the next point, with the mutex or without it. -/
lemma Orderly.goes (h : Orderly d) (hr : d.runs = true) (hp : d.point ≠ .returned) {queue : WorkerQueue V}
    {point : WorkerAt} (hs : queue.state = d.queue.state) (hw : queue.worker = d.queue.worker)
    (hc : d.queue.state = .stopping → d.signalling = false →
      ¬({ d with queue := queue, point := point } : WorkerThread V).Committed)
    (hx : ∀ w, point = .startWait (some w) → w.Exact) : Orderly { d with queue := queue, point := point } where
  awake hs' hn := by
    have hs' : d.queue.state = .stopping := hs ▸ hs'
    exact ⟨hc hs' hn, hw ▸ (h.awake hs' hn).2⟩
  stops hn := hs ▸ h.stops hn
  stopped hs' := absurd (h.stopped (hs ▸ hs')).2 hp
  resumes hf := by
    rw [runs] at hr hf
    rw [hw, hr] at hf
    cases hf
  computed := hx
  timed := h.timed

lemma not_committed_at {queue : WorkerQueue V} {point : WorkerAt} (ht : point ≠ .testQueues) (hw : point ≠ .startWait none) :
    ¬({ d with queue := queue, point := point } : WorkerThread V).Committed := fun hc =>
  hc.2.elim (fun h => ht h.1) hw

lemma Orderly.test_running (h : Orderly d) (hr : d.runs = true) (ht : d.testRunning = some d') : Orderly d' := by
  rw [testRunning] at ht
  split at ht
  · rename_i hp
    cases ht
    refine h.goes hr (by rw [hp]; nofun) rfl rfl (fun _ _ => not_committed_at ?_ ?_) fun w hw => ?_
    · split <;> nofun
    · split <;> nofun
    · split at hw <;> cases hw
  · rename_i hp
    cases ht
    refine h.goes hr (by rw [hp]; nofun) rfl rfl (fun hs _ => ?_) fun w hw => ?_
    · rw [isRunning, hs]
      exact not_committed_at nofun nofun
    · split at hw <;> cases hw
  · rename_i hp
    split at ht
    · split at ht
      · cases ht
      · rename_i hrun _ r q hq
        cases ht
        have hs : d.queue.state = .running := of_decide_eq_true hrun
        refine ⟨fun hs' => ?_, h.stops, fun hs' => ?_, fun _ => .inr rfl, fun _ hw => (by cases hw), h.timed⟩
        · cases hs.symm.trans hs'
        · cases hs.symm.trans hs'
    · cases ht
      exact h.goes hr (by rw [hp]; nofun) rfl rfl (fun _ _ => not_committed_at nofun nofun) fun w hw => (by cases hw)
  · cases ht

lemma Orderly.test_queues (h : Orderly d) (hr : d.runs = true) (hp : d.point = .testQueues) {tv : TimeVal}
    (hn : NoCarry d.queue tv) : Orderly (d.testQueues pq tv) := by
  have hne : d.point ≠ .returned := by rw [hp]; nofun
  rw [testQueues]
  split
  · exact h.goes hr hne rfl rfl (fun _ _ => not_committed_at nofun nofun) fun w hw => (by cases hw)
  · rename_i hq
    split
    · rename_i hdelayed
      refine h.goes hr hne rfl rfl (fun hs hn _ => ?_) fun w hw => (by cases hw)
      exact (h.awake hs hn).1 ⟨hr, .inl ⟨hp, not_not.mp hq, hdelayed⟩⟩
    · dsimp only
      split
      · rename_i r hmoved htop
        refine h.goes hr hne rfl rfl (fun _ _ => not_committed_at nofun nofun) fun w hw => ?_
        cases hw
        exact (timed_wait_exact hmoved htop).mpr hn
      · exact h.goes hr hne rfl rfl (fun _ _ => not_committed_at nofun nofun) fun w hw => (by cases hw)

lemma Orderly.start_wait (h : Orderly d) (hr : d.runs = true) {timed : Option TimedWait} (hp : d.point = .startWait timed) :
    Orderly (d.startWait timed) where
  awake hs hn := by
    refine ⟨fun hc => (by cases hc.1), fun hw => ?_⟩
    cases timed with
    | none => exact (h.awake hs hn).1 ⟨hr, .inr hp⟩
    | some w => cases hw
  stops := h.stops
  stopped hs := by
    rw [(h.stopped hs).2] at hp
    cases hp
  resumes _ := .inl rfl
  computed _ hw := by cases hw
  timed w hw := by
    rcases List.mem_append.mp hw with hw | hw
    · cases timed with
      | none => cases hw
      | some w' =>
        obtain rfl := List.mem_singleton.mp hw
        exact h.computed w hp
    · exact h.timed w hw

/-- The worker leaves `cond_` or has processed the record. -/
lemma Orderly.resume (h : Orderly d) (hr : d.runs = false) {queue : WorkerQueue V} (hs : queue.state = d.queue.state)
    (hw : queue.worker = .loop) : Orderly { d with queue := queue } where
  awake _ _ := by
    refine ⟨not_committed_at ?_ ?_, by rw [hw]; nofun⟩
    · rcases h.resumes hr with hp | hp <;> rw [hp] <;> nofun
    · rcases h.resumes hr with hp | hp <;> rw [hp] <;> nofun
  stops hn := hs ▸ h.stops hn
  stopped hs' := by
    rw [(h.stopped (hs ▸ hs')).1] at hr
    cases hr
  resumes hf := by
    rw [runs, hw] at hf
    cases hf
  computed := h.computed
  timed := h.timed

lemma orderly_step {a : WorkerAction V} (h : Orderly d) (ha : Meets d a) (hs : workerStep pq d a = some d') : Orderly d' := by
  cases a with
  | run =>
    rw [workerStep] at hs
    split at hs
    · rename_i hi
      cases hs
      refine ⟨fun hs' => (by cases hs'), fun hn => ?_, fun hs' => (by cases hs'), h.resumes, h.computed, h.timed⟩
      rcases h.stops hn with hs' | hs' <;> cases hi.symm.trans hs'
    · cases hs
  | add p =>
    rw [workerStep] at hs
    split at hs
    · cases hs
    · rename_i hm
      cases hs
      exact h.produces (Bool.eq_false_iff.mpr hm) (produces_add d.queue p)
  | addDelayed p delayInMs =>
    rw [workerStep] at hs
    split at hs
    · cases hs
    · rename_i hm
      cases hs
      exact h.produces (Bool.eq_false_iff.mpr hm) (produces_add_delayed d.queue p delayInMs)
  | beginStopping =>
    rw [workerStep] at hs
    split at hs
    · cases hs
      exact ⟨fun _ hn => (by cases hn), fun _ => .inl rfl, fun hs' => (by cases hs'), h.resumes, h.computed, h.timed⟩
    · cases hs
  | signal =>
    rw [workerStep] at hs
    split at hs
    · cases hs
      exact h.signal ha
    · cases hs
  | tick ms =>
    cases hs
    exact ⟨h.awake, h.stops, h.stopped, h.resumes, h.computed, h.timed⟩
  | testRunning =>
    rw [workerStep] at hs
    split at hs
    · rename_i hr
      exact h.test_running (Bool.and_eq_true_iff.mp hr).1 hs
    · cases hs
  | lock =>
    rw [workerStep] at hs
    split at hs
    · rename_i hr hp
      cases hs
      exact h.goes hr (by rw [hp]; nofun) rfl rfl (fun _ _ => not_committed_at nofun nofun) fun w hw => (by cases hw)
    · cases hs
  | testQueues tv =>
    rw [workerStep] at hs
    split at hs
    · rename_i hr hp
      cases hs
      exact h.test_queues hr hp ha
    · cases hs
  | startWait =>
    rw [workerStep] at hs
    split at hs
    · rename_i timed hr hp
      cases hs
      exact h.start_wait hr hp
    · cases hs
  | wake =>
    rw [workerStep] at hs
    split at hs
    · rename_i time s hw
      cases hs
      exact h.resume (by rw [runs, hw]) rfl rfl
    · cases hs
  | process =>
    rw [workerStep] at hs
    split at hs
    · rename_i r p hw
      cases hs
      exact h.resume (by rw [runs, hw]) rfl rfl
    · cases hs
  | stopped =>
    rw [workerStep] at hs
    split at hs
    · rename_i hr hp
      cases hs
      exact ⟨fun hs' => (by cases hs'), fun _ => .inr rfl, fun _ => ⟨hr, hp⟩, h.resumes, h.computed, h.timed⟩
    · cases hs

lemma orderly_reaches {memory : ℕ → Record V} (hr : Reaches (workerStep pq) Meets { queue := { memory := memory } } d) :
    Orderly d := by
  refine hr.invariant ?_ fun s a s' _ hi ha hs => orderly_step hi ha hs
  exact ⟨fun hs => (by cases hs), fun hn => (by cases hn), fun hs => (by cases hs), fun hf => (by cases hf),
    fun w hw => (by cases hw), fun w hw => (by cases hw)⟩

/-! ### What a step leads to that does not meet the condition -/

lemma starts_wait (hr : d.runs = true) {timed : Option TimedWait} (hp : d.point = .startWait timed) :
    workerStep pq d .startWait = some (d.startWait timed) := by
  rw [workerStep, hr, hp]

lemma tests_queues (hr : d.runs = true) (hp : d.point = .testQueues) (tv : TimeVal) :
    workerStep pq d (.testQueues tv) = some (d.testQueues pq tv) := by
  rw [workerStep, hr, hp]

/-- A committed worker that nobody signals any more sleeps for good. -/
lemma committed_sleeps (hc : d.Committed) (hs : d.queue.state = .stopping) (hn : d.signalling = false) :
    ∃ d', Reaches (workerStep pq) ByItself d d' ∧ ¬Wakeful d' := by
  have hwait : ∀ e : WorkerThread V, e.runs = true → e.point = .startWait none → e.queue.state = .stopping →
      e.signalling = false → ∃ d', Reaches (workerStep pq) ByItself e d' ∧ ¬Wakeful d' := by
    intro e hr hp hs hn
    refine ⟨_, .tail .refl (a := .startWait) trivial (starts_wait hr hp), fun hw => ?_⟩
    have hsig : e.signalling = true := hw.signalled hs rfl
    rw [hn] at hsig
    cases hsig
  obtain ⟨hr, ⟨hp, hq, hdelayed⟩ | hp⟩ := hc
  · have htv : d.testQueues pq ⟨0, 0, le_rfl, by decide⟩ = { d with point := .startWait none } := by
      rw [testQueues, if_neg (not_not.mpr hq), if_pos hdelayed]
    obtain ⟨d', hreaches, hw⟩ := hwait { d with point := .startWait none } hr rfl hs hn
    refine ⟨d', Reaches.trans (.tail .refl (a := .testQueues ⟨0, 0, le_rfl, by decide⟩) trivial ?_) hreaches, hw⟩
    rw [tests_queues hr hp, htv]
  · exact hwait d hr hp hs hn

lemma carried_wait (hr : d.runs = true) {tv : TimeVal} (hc : ¬NoCarry d.queue tv) :
    ∃ d', Reaches (workerStep pq) ByItself (d.testQueues pq tv) d' ∧ ¬Wakeful d' := by
  obtain ⟨t, ht, hmin, hq, hlater, -⟩ : ∃ t ∈ d.queue.delayed.map d.queue.time,
      (∀ u ∈ d.queue.delayed.map d.queue.time, t ≤ u) ∧ d.queue.q = [] ∧ d.queue.now < t ∧
        ¬tv.usec + (t - d.queue.now) % 1000 * 1000 < 1000000 := by
    simpa only [NoCarry, not_forall, exists_prop] using hc
  have hmoved : (d.queue.moveDue pq).q = [] := by
    refine List.append_eq_nil_iff.mpr ⟨hq, List.eq_nil_iff_forall_not_mem.mpr fun a ha => ?_⟩
    have hle := (hmin _ (List.mem_map_of_mem (pq.mem_of_pop_due ha))).trans (pq.le_of_pop_due ha)
    exact absurd hlater (not_lt.mpr hle)
  have hne : d.queue.delayed ≠ [] := fun hnil => by
    rw [hnil] at ht
    cases ht
  obtain ⟨-, hperm, -⟩ := move_due_none hmoved
  cases htop : pq.top (d.queue.moveDue pq).time (d.queue.moveDue pq).delayed with
  | none =>
    rw [pq.nil_of_top htop] at hperm
    exact absurd hperm.nil_eq.symm hne
  | some r =>
    have hstep : d.testQueues pq tv = { d with
        queue := d.queue.moveDue pq, point := .startWait (some (timedWait tv (d.queue.moveDue pq) r)) } := by
      rw [testQueues, if_neg (not_not.mpr hq), if_neg hne]
      dsimp only
      rw [hmoved, htop]
    have hruns : (d.testQueues pq tv).runs = true := by
      rw [hstep]
      exact hr
    refine ⟨_, .tail .refl (a := .startWait) trivial (starts_wait hruns (by rw [hstep])), fun hw => ?_⟩
    exact hc ((timed_wait_exact hmoved htop).mp (hw.timed _ List.mem_cons_self))

/-- As long as `Stop` does not signal while the worker is on its way from the test to the wait and nothing is carried in
a timespec, the worker does not sleep through the end and its timed waits are exact. From there a step of the other kind
makes the worker sleep through the end, or start a wait that is not exact. -/
theorem worker_wakes {memory : ℕ → Record V} (h : Reaches (workerStep pq) Meets { queue := { memory := memory } } d) :
    Wakeful d ∧ ∀ a d', workerStep pq d a = some d' → ¬Meets d a →
      ∃ d'', Reaches (workerStep pq) ByItself d' d'' ∧ ¬Wakeful d'' := by
  have ho := orderly_reaches h
  refine ⟨ho.wakeful, fun a d' hs ha => ?_⟩
  cases a with
  | signal =>
    have hc : d.Committed := not_not.mp ha
    have hw : d.queue.signal = d.queue := by
      rw [WorkerQueue.signal]
      split
      · rename_i time s hw
        have hr := hc.1
        rw [runs, hw] at hr
        cases hr
      · rfl
    rw [workerStep, hw] at hs
    split at hs
    · rename_i hn
      cases hs
      have hstate : d.queue.state = .stopping := by
        refine (ho.stops hn).resolve_right fun hstopped => ?_
        have hp := (ho.stopped hstopped).2
        rcases hc.2 with ⟨hp', -⟩ | hp' <;> cases hp'.symm.trans hp
      exact committed_sleeps (d := { d with signalling := false }) hc hstate rfl
    · cases hs
  | testQueues tv =>
    rw [workerStep] at hs
    split at hs
    · rename_i hr _
      cases hs
      exact carried_wait hr ha
    · cases hs
  | _ => exact absurd trivial ha

/-- A value is delayed by 5 ms when the clock shows 200000 µs, and the wait for it is signalled. -/
theorem worker_wakes_run : ∃ d : WorkerThread ℕ, (Wakeful d ∧ ∀ a d', workerStep (.first ℕ) d a = some d' → ¬Meets d a →
    ∃ d'', Reaches (workerStep (.first ℕ)) ByItself d' d'' ∧ ¬Wakeful d'') ∧
      d.waits.map TimedWait.ts = [⟨7, 205000000⟩] ∧ d.queue.worker = .waiting (some 5) true := by
  have hr : Reaches (workerStep (.first ℕ)) Meets { queue := { memory := fun _ => (⟨0, 0, 0⟩ : Record ℕ) } } _ :=
    .tail (.tail (.tail (.tail (.tail (.tail (.tail (.tail (.tail .refl
      trivial (a := .run) rfl) trivial (a := .addDelayed 7 5) rfl) trivial (a := .testRunning) rfl)
      trivial (a := .lock) rfl) trivial (a := .testRunning) rfl)
      (fun t ht _ _ _ => by obtain rfl := List.mem_singleton.mp ht; decide)
        (a := .testQueues ⟨7, 200000, by decide, by decide⟩) rfl)
      trivial (a := .startWait) rfl) trivial (a := .beginStopping) rfl)
      (fun hc => by cases hc.1) (a := .signal) rfl
  exact ⟨_, worker_wakes hr, rfl, rfl⟩

/-- `Stop` runs whole after the worker has seen that it runs. Another wait, of 5 ms, begins when the clock shows 999999
µs. -/
theorem worker_stops_unseen :
    (¬∀ (pq : PriorityQueue ℕ) (memory : ℕ → Record ℕ) (d : WorkerThread ℕ),
      Reaches (workerStep pq) (fun _ _ => True) { queue := { memory := memory } } d →
        d.queue.state = .stopping → d.queue.worker = .waiting none false → d.signalling = true) ∧
    ¬∀ (pq : PriorityQueue ℕ) (memory : ℕ → Record ℕ) (d : WorkerThread ℕ),
      Reaches (workerStep pq) (fun _ _ => True) { queue := { memory := memory } } d → ∀ w ∈ d.waits, w.Exact := by
  let start : WorkerThread ℕ := { queue := { memory := fun _ => ⟨0, 0, 0⟩ } }
  constructor
  · intro h
    have hr : Reaches (workerStep (.first ℕ)) (fun _ _ => True) start _ :=
      .tail (.tail (.tail (.tail (.tail (.tail (.tail (.tail .refl trivial (a := .run) rfl)
        trivial (a := .testRunning) rfl) trivial (a := .lock) rfl) trivial (a := .testRunning) rfl)
        trivial (a := .beginStopping) rfl) trivial (a := .signal) rfl)
        trivial (a := .testQueues ⟨7, 0, by decide, by decide⟩) rfl) trivial (a := .startWait) rfl
    cases h _ _ _ hr rfl rfl
  · intro h
    have hr : Reaches (workerStep (.first ℕ)) (fun _ _ => True) start _ :=
      .tail (.tail (.tail (.tail (.tail (.tail (.tail .refl trivial (a := .run) rfl)
        trivial (a := .addDelayed 7 5) rfl) trivial (a := .testRunning) rfl) trivial (a := .lock) rfl)
        trivial (a := .testRunning) rfl) trivial (a := .testQueues ⟨7, 999999, by decide, by decide⟩) rfl)
        trivial (a := .startWait) rfl
    have hlt := (h _ _ _ hr _ List.mem_cons_self).wellFormed.2
    exact absurd hlt (by decide)

end WorkerThread

end Ril.Mock
