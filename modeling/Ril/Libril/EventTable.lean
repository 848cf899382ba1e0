import Ril.Libril.EventRuns

/-! The queue of the timers in every state of the event loop. -/

namespace Ril.Libril.Event

open Lib RilEvents

def RilEvents.deadline (d : RilEvents) (ev : ℕ) : ℤ := (d.timeout ev).micros

/-- The queue holds these timers. The last fields say what the functions of the loop do with it, and what they did so
far. -/
structure TimerQueue (s : EventLoop) (timers pending : List ℕ) : Prop where
  timerList : Circular s.events.links .timerList (timers.map .event)
  pendingList : Circular s.events.links .pendingList (pending.map .event)
  sorted : timers.Pairwise fun ev ev' => s.events.deadline ev ≤ s.events.deadline ev'
  processTimeouts : ∀ now fuel, now.Normalised → timers.length < fuel →
    ∃ events, s.events.processTimeouts fuel now = some events ∧
      Circular events.links .timerList ((timers.filter fun ev => now.micros ≤ s.events.deadline ev).map .event) ∧
      Circular events.links .pendingList ((pending ++ timers.filter fun ev => s.events.deadline ev < now.micros).map .event)
  calcNextTimeout : ∀ now, now.Normalised → ∃ tv, s.events.calcNextTimeout now = some tv ∧ (tv = none ↔ timers = []) ∧
    ∀ t ∈ tv, ∀ ev ∈ timers.head?, t.Normalised ∧ 0 ≤ t.sec ∧ t.micros = max 0 (s.events.deadline ev - now.micros)
  once : s.added.Perm (EventLoop.timerCalls s.calls ++ pending.filter (fun ev => s.events.fd ev = -1) ++ timers)
  top : s.point = .top → pending = []
  round : ∀ now rfds s₁ s₂, s.Allowed (.timeouts now rfds) → eventStep s (.timeouts now rfds) = some s₁ →
    Reaches eventStep EventLoop.Rest s₁ s₂ → s₂.point = .top → EventLoop.timerCalls s₂.calls =
      EventLoop.timerCalls s.calls ++ timers.filter fun ev => s.events.deadline ev < now.micros

namespace EventLoop

variable {s : EventLoop} {lists : EventQueue → List ℕ} {now : Timeval}

/-- The cut of a sorted list -/
lemma cut_filter {key : ℕ → ℤ} {earlier : ℕ → Bool} {timers : List ℕ} {t : ℤ}
    (hs : timers.Pairwise fun a b => key a ≤ key b) (he : ∀ a ∈ timers, earlier a = true ↔ key a < t) :
    timers.takeWhile earlier = timers.filter (fun a => key a < t) ∧
      timers.dropWhile earlier = timers.filter fun a => t ≤ key a := by
  have htake : ∀ a ∈ timers.takeWhile earlier, key a < t := fun a ha =>
    (he a ((List.takeWhile_prefix _).subset ha)).mp (List.mem_takeWhile_imp ha)
  have hdrop : ∀ a ∈ timers.dropWhile earlier, t ≤ key a := fun a ha => not_before_cut hs he ha
  constructor
  · conv_rhs => rw [← List.takeWhile_append_dropWhile (p := earlier) (l := timers)]
    rw [List.filter_append, List.filter_eq_self.mpr fun a ha => decide_eq_true (htake a ha),
      List.filter_eq_nil_iff.mpr fun a ha => by simpa using hdrop a ha, List.append_nil]
  · conv_rhs => rw [← List.takeWhile_append_dropWhile (p := earlier) (l := timers)]
    rw [List.filter_append, List.filter_eq_nil_iff.mpr fun a ha => by simpa using htake a ha,
      List.filter_eq_self.mpr fun a ha => decide_eq_true (hdrop a ha), List.nil_append]

lemma Inv.expired_iff (h : s.Inv lists) (hnow : now.Normalised) {ev : ℕ} (hev : ev ∈ lists .timer) :
    s.events.expired now ev = true ↔ s.events.deadline ev < now.micros :=
  timercmp_gt hnow (h.timers ev hev).2

lemma Inv.process (h : s.Inv lists) (hnow : now.Normalised) {fuel : ℕ} (hf : (lists .timer).length < fuel) :
    ∃ events, s.events.processTimeouts fuel now = some events ∧
      Circular events.links .timerList (((lists .timer).filter fun ev => now.micros ≤ s.events.deadline ev).map .event) ∧
      Circular events.links .pendingList
        ((lists .pending ++ (lists .timer).filter fun ev => s.events.deadline ev < now.micros).map .event) := by
  obtain ⟨l, hrun, hqueues⟩ := process_timeouts now h.queues hf
  obtain ⟨htake, hdrop⟩ := cut_filter (t := now.micros) h.sorted fun ev hev => h.expired_iff hnow hev
  refine ⟨_, hrun, ?_, ?_⟩
  · have htimers := hqueues.circular .timer
    rw [Function.update_of_ne EventQueue.noConfusion, Function.update_self, hdrop] at htimers
    exact htimers
  · have hpending := hqueues.circular .pending
    rw [Function.update_self, htake] at hpending
    exact hpending

lemma Inv.wait (h : s.Inv lists) (hnow : now.Normalised) :
    ∃ tv, s.events.calcNextTimeout now = some tv ∧ (tv = none ↔ lists .timer = []) ∧ ∀ t ∈ tv, ∀ ev ∈ (lists .timer).head?,
      t.Normalised ∧ 0 ≤ t.sec ∧ t.micros = max 0 (s.events.deadline ev - now.micros) := by
  refine ⟨_, calc_next_timeout h.queues, ?_, fun t ht ev hev => ?_⟩
  · rw [Option.map_eq_none_iff, List.head?_eq_none_iff]
  · have hnormalised := (h.timers ev (List.mem_of_mem_head? hev)).2
    rw [Option.mem_def.mp hev, Option.map_some, Option.mem_some_iff] at ht
    subst ht
    by_cases hlater : timercmp (s.events.timeout ev) now (· > ·) = true
    · have hlt := (timercmp_gt hnormalised hnow).mp hlater
      have hn := timersub_normalised hnormalised hnow
      have hmicros := timersub_micros (s.events.timeout ev) now
      rw [if_pos hlater]
      refine ⟨hn, ?_, ?_⟩
      · obtain ⟨hn, hn'⟩ := hn
        rw [Timeval.micros] at hmicros
        omega
      · rw [hmicros, deadline]
        omega
    · have hle := not_lt.mp (mt (timercmp_gt hnormalised hnow).mpr hlater)
      rw [if_neg hlater]
      refine ⟨⟨le_refl 0, by decide⟩, le_refl 0, ?_⟩
      rw [deadline, max_eq_left (by omega)]
      rfl

lemma timer_calls_due (s : EventLoop) (lists : EventQueue → List ℕ) : timerCalls (s.due lists) =
    timerCalls s.calls ++ (lists .pending).filter fun ev => s.events.fd ev = -1 := by
  rw [due, timer_calls_append, timerCalls, timerCalls, List.filter_map, List.map_map]
  exact congrArg (_ ++ ·) (List.map_id _)

lemma Inv.round (h : s.Inv lists) {rfds : Finset ℤ} {s₁ s₂ : EventLoop} (hok : s.Allowed (.timeouts now rfds))
    (hs : eventStep s (.timeouts now rfds) = some s₁) (hr : Reaches eventStep Rest s₁ s₂) (hp : s₂.point = .top) :
    timerCalls s₂.calls = timerCalls s.calls ++ (lists .timer).filter fun ev => s.events.deadline ev < now.micros := by
  have hmoves := h.moves hok hs
  obtain ⟨⟨readFds, tv, hselecting, -⟩, hnow⟩ := hok
  have hnone : PointInv s.events.fd (lists .pending) (.selecting readFds tv) := hselecting ▸ h.point
  have hnone : lists .pending = [] := hnone
  obtain ⟨lists', hinv, hdue⟩ := rest_due hmoves.inv hr
  obtain ⟨htake, -⟩ := cut_filter (t := now.micros) h.sorted fun ev hev => h.expired_iff hnow hev
  have hexpired : timerCalls (((lists .timer).takeWhile (s.events.expired now)).map fun ev => (ev, s.events.fd ev)) =
      (lists .timer).takeWhile (s.events.expired now) :=
    timer_calls_timers fun ev hev => (h.timers ev ((List.takeWhile_prefix _).subset hev)).1
  rw [hinv.due_top hp, hmoves.due, timer_calls_append, timer_calls_due, hnone, List.filter_nil, List.append_nil] at hdue
  rw [hdue]
  exact congrArg (_ ++ ·) (hexpired.trans htake)

end EventLoop

/-- In every state of the loop -/
theorem timer_queue {s : EventLoop} (h : Reaches eventStep EventLoop.Allowed {} s) :
    (∃ timers pending, TimerQueue s timers pending) ∧ ∀ a, s.Allowed a → ∃ s', eventStep s a = some s' := by
  obtain ⟨lists, hinv⟩ := EventLoop.reachable_inv h
  refine ⟨⟨lists .timer, lists .pending, hinv.queues.circular .timer, hinv.queues.circular .pending, hinv.sorted,
    fun now fuel hnow hf => hinv.process hnow hf, fun now hnow => hinv.wait hnow, ?_, fun hp => ?_,
    fun now rfds s₁ s₂ hok hs hr hp => hinv.round hok hs hr hp⟩, fun a hok => ?_⟩
  · have honce := hinv.once
    rwa [EventLoop.timer_calls_due] at honce
  · have hnone : EventLoop.PointInv s.events.fd (lists .pending) .top := hp ▸ hinv.point
    exact hnone
  · obtain ⟨s', hs, -⟩ := EventLoop.allowed_step hinv hok
    exact ⟨s', hs⟩

theorem one_timer_queued : ∃ s : EventLoop, s.added = [0] ∧ s.events.deadline 0 = 12100000 ∧
    (∃ timers pending, TimerQueue s timers pending) ∧ ∀ a, s.Allowed a → ∃ s', eventStep s a = some s' := by
  have hset : Reaches eventStep EventLoop.Allowed {} _ :=
    .tail (a := .set 0 5 false) .refl ⟨by decide, rfl⟩ rfl
  have hadd : EventLoop.Allowed { events := RilEvents.init.rilEventSet 0 5 false, initialised := {0} }
      (.timerAdd 0 (some ⟨1, 500000⟩) ⟨10, 600000⟩) := by
    rintro t ⟨⟩
    exact ⟨by decide, by decide, rfl, ⟨by decide, by decide⟩, ⟨by decide, by decide⟩, by decide⟩
  exact ⟨_, rfl, rfl, timer_queue (.tail hset hadd rfl)⟩

end Ril.Libril.Event

/-! The table of the watched events in every state of the event loop. -/

namespace Ril.Libril.Event

open Lib RilEvents

/-- The events that `processReadReadies` finds ready -/
def RilEvents.readyEvents (d : RilEvents) (rfds : Finset ℤ) : List ℕ := d.watched.filter fun ev => d.fd ev ∈ rfds

/-- The places of the events, and the values that go with the table. The last fields say that a round of the loop calls
the ready events, after those of the timers. -/
structure WatchTable (s : EventLoop) : Prop where
  index : ∀ ev ∈ s.initialised, ∀ i : ℕ, s.events.watchTable[i]? = some (some ev) ↔ s.events.index ev = i
  unwatched : ∀ ev ∈ s.initialised, ev ∉ s.events.watched → s.events.index ev = -1
  initialised : ∀ ev ∈ s.events.watched, ev ∈ s.initialised
  readFds : ∀ fd, fd ∈ s.events.readFds ↔ ∃ ev ∈ s.events.watched, s.events.fd ev = fd
  nfds : ∀ ev ∈ s.events.watched, s.events.fd ev < s.events.nfds
  top : s.point = .top → (s.events.mem .pendingList).next = some .pendingList
  unwatches : ∀ rfds s₁, s.point = .timedOut rfds → eventStep s .readReadies = some s₁ →
    ∀ ev ∈ s.events.readyEvents rfds, s.events.persist ev = false → ev ∉ s₁.events.watched ∧ s₁.events.index ev = -1
  round : ∀ rfds s₁, s.point = .timedOut rfds → eventStep s .readReadies = some s₁ →
    (s.events.readyEvents rfds).Nodup ∧ (∃ s₂, Reaches eventStep EventLoop.Fires s₁ s₂ ∧ s₂.point = .top) ∧
      ∃ expired : List ℕ, ∀ s₂, Reaches eventStep EventLoop.Fires s₁ s₂ → s₂.point = .top →
        s₂.calls = s.calls ++ expired.map (fun ev => (ev, -1)) ++
          (s.events.readyEvents rfds).map fun ev => (ev, s.events.fd ev)

namespace EventLoop

variable {s s' s₁ s₂ : EventLoop} {lists : EventQueue → List ℕ} {rfds : Finset ℤ} {ev : ℕ}

lemma Inv.index (h : s.Inv lists) (hev : ev ∈ s.initialised) (i : ℕ) :
    s.events.watchTable[i]? = some (some ev) ↔ s.events.index ev = i := by
  refine ⟨h.watching.index i ev, fun hi => ?_⟩
  have hwatched : ev ∈ s.events.watched := by
    by_contra hnot
    have hnone := h.watching.unwatched ev hev hnot
    omega
  obtain ⟨j, hj⟩ := mem_entries_iff.mp hwatched
  have hij : j = i := Int.ofNat_inj.mp ((h.watching.index j ev hj).symm.trans hi)
  exact hij ▸ hj

/-- A call ends the loop of `firePending` or is followed by its return. -/
lemma fire_point {p : EventPtr} (hp : s.point = .firing p) (hs : eventStep s .fire = some s') :
    s'.point = .top ∨ ∃ ev next, s'.point = .calling ev next := by
  rw [eventStep, hp] at hs
  cases p with
  | timerList => cases hs
  | pendingList =>
    obtain rfl := Option.some.inj hs
    exact .inl rfl
  | event ev =>
    obtain ⟨next, -, hs⟩ := Option.bind_eq_some_iff.mp hs
    obtain ⟨events, -, hs⟩ := Option.bind_eq_some_iff.mp hs
    obtain rfl := Option.some.inj hs
    exact .inr ⟨ev, next, rfl⟩

lemma returns_point {next : EventPtr} (hp : s.point = .calling ev next) (hs : eventStep s .funcReturns = some s') :
    s'.point = .firing next := by
  rw [eventStep, hp] at hs
  obtain rfl := Option.some.inj hs
  rfl

lemma fires_end {p : EventPtr} (h : s.Inv lists) (hp : s.point = .firing p) :
    ∃ s₂, Reaches eventStep Fires s s₂ ∧ s₂.point = .top := by
  induction hn : (lists .pending).length generalizing s lists p with
  | zero =>
    have hok : s.Fires .fire := ⟨⟨⟨p, hp⟩, trivial⟩, EventAction.noConfusion⟩
    have hpoint : PointInv s.events.fd (lists .pending) (.firing p) := hp ▸ h.point
    rw [List.length_eq_zero_iff.mp hn] at hpoint
    obtain rfl : p = .pendingList := hpoint
    refine ⟨{ s with point := .top }, .tail .refl hok ?_, rfl⟩
    rw [eventStep, hp]
  | succ n ih =>
    obtain ⟨s', hs, hmoves⟩ := fire_step h ⟨_, hp⟩
    have hok : s.Fires .fire := ⟨⟨⟨p, hp⟩, trivial⟩, EventAction.noConfusion⟩
    have hfire : Reaches eventStep Fires s s' := .tail .refl hok hs
    rcases fire_point hp hs with htop | ⟨ev, next, hcalling⟩
    · exact ⟨s', hfire, htop⟩
    · obtain ⟨s'', hs', hstays⟩ := returns_step hmoves.inv ⟨_, _, hcalling⟩
      have hok' : s'.Fires .funcReturns := ⟨⟨⟨ev, next, hcalling⟩, trivial⟩, EventAction.noConfusion⟩
      have hlength : (s.listsAfter lists .fire .pending).length = n := by
        rw [listsAfter, Function.update_self, List.length_tail, hn, Nat.succ_sub_one]
      obtain ⟨s₂, hrest, htop⟩ := ih hstays.inv (returns_point hcalling hs') hlength
      exact ⟨s₂, (hfire.tail hok' hs').trans hrest, htop⟩

/-- What `readReadies` leaves: the next point and the table -/
lemma read_readies_point (h : s.Inv lists) (hp : s.point = .timedOut rfds) (hs : eventStep s .readReadies = some s₁) :
    (∃ p, s₁.point = .firing p) ∧ s₁.calls = s.calls ∧
      s.events.Readied rfds 0 lists s.initialised s₁.events := by
  obtain ⟨events, hrun, hread⟩ := read_readies h.watching h.queues (ready_free h hp)
  rw [eventStep, hp] at hs
  dsimp only at hs
  rw [hrun, Option.bind_eq_bind, Option.bind_some] at hs
  obtain ⟨p, -, hs⟩ := Option.bind_eq_some_iff.mp hs
  obtain rfl := Option.some.inj hs
  exact ⟨⟨p, rfl⟩, rfl, hread⟩

lemma Inv.unwatches (h : s.Inv lists) (hp : s.point = .timedOut rfds) (hs : eventStep s .readReadies = some s₁)
    (hev : ev ∈ s.events.readyEvents rfds) (hpersist : s.events.persist ev = false) :
    ev ∉ s₁.events.watched ∧ s₁.events.index ev = -1 := by
  obtain ⟨hin, hready⟩ := List.mem_filter.mp hev
  obtain ⟨-, -, hread⟩ := read_readies_point h hp hs
  have hnot : ev ∉ s₁.events.watched := fun hmem =>
    Bool.false_ne_true (hpersist.symm.trans ((hread.watched_iff.mp hmem).2 (of_decide_eq_true hready)))
  exact ⟨hnot, hread.watching.unwatched ev (h.watching.initialised ev hin) hnot⟩

lemma Inv.calls_round (h : s.Inv lists) (hp : s.point = .timedOut rfds) (hs : eventStep s .readReadies = some s₁)
    (hr : Reaches eventStep Fires s₁ s₂) (htop : s₂.point = .top) :
    s₂.calls = s.calls ++ (lists .pending).map (fun ev => (ev, -1)) ++
      (s.events.readyEvents rfds).map fun ev => (ev, s.events.fd ev) := by
  have hpoint : PointInv s.events.fd (lists .pending) (.timedOut rfds) := hp ▸ h.point
  have hok : s.Allowed .readReadies := ⟨rfds, hp⟩
  have hmoves := h.moves hok hs
  obtain ⟨lists', hinv, hdue⟩ := fires_due hmoves.inv hr
  have hgains : s.gains lists .readReadies = s.events.readyEvents rfds := by
    rw [gains, hp]
    rfl
  have hpending : (lists .pending).map (fun ev => (ev, s.events.fd ev)) = (lists .pending).map fun ev => (ev, -1) :=
    List.map_congr_left fun ev hev => by rw [hpoint ev hev]
  rw [hinv.due_top htop, hmoves.due, hgains, due, hpending] at hdue
  exact hdue

end EventLoop

end Ril.Libril.Event
