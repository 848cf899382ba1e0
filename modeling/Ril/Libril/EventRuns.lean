import Ril.Libril.EventWatch

/-! The runs of the event loop: what each step does with the two lists, and what holds in every state. -/

namespace Ril.Libril.Event

open Lib RilEvents

namespace EventLoop

/-- The steps that can be next, where the callers set an event before they use it, do not add one that is watched or in
a list, and watch no more than `maxFdEvents` valid descriptors, each once. Delays and clocks are normalised. -/
def Allowed (s : EventLoop) : EventAction → Prop
  | .set ev _ _ => ev ∉ s.events.watched ∧ (s.events.mem (.event ev)).next = none
  | .add ev =>
    ev ∈ s.initialised ∧ ev ∉ s.events.watched ∧ (0 ≤ s.events.fd ev ∧ s.events.fd ev < fdSetSize) ∧
      (∀ ev' ∈ s.events.watched, s.events.fd ev' ≠ s.events.fd ev) ∧ s.events.watched.length < maxFdEvents
  | .del ev => ev ∈ s.initialised
  | .timerAdd ev tv now => ∀ t ∈ tv,
    ev ∈ s.initialised ∧ ev ∉ s.events.watched ∧ (s.events.mem (.event ev)).next = none ∧ now.Normalised ∧
      t.Normalised ∧ 0 ≤ t.sec
  | .select now => s.point = .top ∧ now.Normalised
  | .interrupted | .selectFails => ∃ rfds tv, s.point = .selecting rfds tv
  | .timeouts now ready => (∃ rfds tv, s.point = .selecting rfds tv ∧ ready ⊆ rfds) ∧ now.Normalised
  | .readReadies => ∃ rfds, s.point = .timedOut rfds
  | .fire => ∃ ev, s.point = .firing ev
  | .funcReturns => ∃ ev next, s.point = .calling ev next

/-- What a step makes of the two lists -/
def listsAfter (s : EventLoop) (lists : EventQueue → List ℕ) : EventAction → EventQueue → List ℕ
  | .timerAdd ev (some tv) now =>
    Function.update lists .timer ((lists .timer).takeWhile (s.events.earlier (timeradd now tv)) ++
      ev :: (lists .timer).dropWhile (s.events.earlier (timeradd now tv)))
  | .timeouts now _ =>
    Function.update (Function.update lists .timer ((lists .timer).dropWhile (s.events.expired now)))
      .pending (lists .pending ++ (lists .timer).takeWhile (s.events.expired now))
  | .readReadies =>
    match s.point with
    | .timedOut rfds => Function.update lists .pending (lists .pending ++ s.events.readyFrom rfds 0)
    | _ => lists
  | .fire => Function.update lists .pending (lists .pending).tail
  | _ => lists

/-- The calls for timers, which have no descriptor -/
def timerCalls (calls : List (ℕ × ℤ)) : List ℕ := (calls.filter fun c => c.2 = -1).map Prod.fst

/-- The calls that were made and those that are pending -/
def due (s : EventLoop) (lists : EventQueue → List ℕ) : List (ℕ × ℤ) :=
  s.calls ++ (lists .pending).map fun ev => (ev, s.events.fd ev)

/-- What becomes pending in a step -/
def gains (s : EventLoop) (lists : EventQueue → List ℕ) : EventAction → List ℕ
  | .timeouts now _ => (lists .timer).takeWhile (s.events.expired now)
  | .readReadies =>
    match s.point with
    | .timedOut rfds => s.events.readyFrom rfds 0
    | _ => []
  | _ => []

/-- What is known of the pending list at a point -/
def PointInv (fd : ℕ → ℤ) (pending : List ℕ) : LoopPoint → Prop
  | .timedOut _ => ∀ ev ∈ pending, fd ev = -1
  | .firing ev | .calling _ ev => ev = (pending.map EventPtr.event).headD .pendingList
  | _ => pending = []

structure Inv (s : EventLoop) (lists : EventQueue → List ℕ) : Prop where
  watching : s.events.Watching s.initialised
  queues : s.events.Queues lists
  timers : ∀ ev ∈ lists .timer, s.events.fd ev = -1 ∧ (s.events.timeout ev).Normalised
  sorted : (lists .timer).Pairwise fun ev ev' => (s.events.timeout ev).micros ≤ (s.events.timeout ev').micros
  once : s.added.Perm (timerCalls (s.due lists) ++ lists .timer)
  point : PointInv s.events.fd (lists .pending) s.point

structure Moves (s : EventLoop) (lists : EventQueue → List ℕ) (a : EventAction) (s' : EventLoop) : Prop where
  inv : s'.Inv (s.listsAfter lists a)
  due : s'.due (s.listsAfter lists a) = s.due lists ++ (s.gains lists a).map fun ev => (ev, s.events.fd ev)

/-- Nothing of the lists changes. -/
structure Stays (s : EventLoop) (lists : EventQueue → List ℕ) (s' : EventLoop) : Prop where
  inv : s'.Inv lists
  due : s'.due lists = s.due lists

variable {s s' : EventLoop} {lists : EventQueue → List ℕ} {ev : ℕ} {fd : ℤ} {persist : Bool} {tv : Option Timeval}
  {now : Timeval} {rfds : Finset ℤ}

/-! ### Steps that leave the lists as they are -/

lemma due_congr (hcalls : s'.calls = s.calls) (hsame : ∀ ev ∈ lists .pending, s'.events.fd ev = s.events.fd ev) :
    s'.due lists = s.due lists := by
  rw [due, due, hcalls]
  exact congrArg (s.calls ++ ·) (List.map_congr_left fun ev hev => by rw [hsame ev hev])

lemma Inv.of_same (h : s.Inv lists) (hw : s'.events.Watching s'.initialised) (hq : s'.events.Queues lists)
    (hsame : ∀ q, ∀ ev ∈ lists q, s'.events.fd ev = s.events.fd ev ∧ s'.events.timeout ev = s.events.timeout ev)
    (hadded : s'.added = s.added) (hcalls : s'.calls = s.calls) (hp : PointInv s'.events.fd (lists .pending) s'.point) :
    s.Stays lists s' := by
  have hdue : s'.due lists = s.due lists := due_congr hcalls fun ev hev => (hsame .pending ev hev).1
  refine ⟨⟨hw, hq, fun ev hev => ?_, h.sorted.imp_of_mem fun {ev ev'} hev hev' hle => ?_, ?_, hp⟩, hdue⟩
  · rw [(hsame .timer ev hev).1, (hsame .timer ev hev).2]
    exact h.timers ev hev
  · rw [(hsame .timer ev hev).2, (hsame .timer ev' hev').2]
    exact hle
  · rw [hadded, hdue]
    exact h.once

lemma PointInv.congr {fd fd' : ℕ → ℤ} {pending : List ℕ} {point : LoopPoint} (h : PointInv fd pending point)
    (hsame : ∀ ev ∈ pending, fd' ev = fd ev) : PointInv fd' pending point := by
  cases point with
  | timedOut rfds => exact fun ev hev => (hsame ev hev).trans (h ev hev)
  | top => exact h
  | selecting rfds tv => exact h
  | firing ev => exact h
  | calling ev next => exact h
  | returned => exact h

lemma set_step (h : s.Inv lists) (hok : s.Allowed (.set ev fd persist)) :
    ∃ s', eventStep s (.set ev fd persist) = some s' ∧ s.Stays lists s' := by
  have hfree := h.queues.unlinked_iff.mp hok.2
  have hother : ∀ q, ∀ ev' ∈ lists q, (s.events.rilEventSet ev fd persist).mem (.event ev') = s.events.mem (.event ev') :=
    fun q ev' hev' => store_other fun heq => hfree q (EventPtr.event.inj heq ▸ hev')
  refine ⟨_, rfl, h.of_same (h.watching.store hok.1 rfl) (h.queues.store hfree rfl) (fun q ev' hev' => ?_) rfl rfl
    (h.point.congr fun ev' hev' => ?_)⟩
  · exact ⟨congrArg RilEvent.fd (hother q ev' hev'), congrArg RilEvent.timeout (hother q ev' hev')⟩
  · exact congrArg RilEvent.fd (hother .pending ev' hev')

lemma marks_inv (h : s.Inv lists) {events : RilEvents} (hm : s.events.Marks events)
    (hw : events.Watching s.initialised) : s.Stays lists { s with events := events } :=
  h.of_same hw (hm.queues h.queues) (fun _ ev' _ => ⟨hm.fd ev', hm.timeout ev'⟩) rfl rfl
    (h.point.congr fun ev' _ => hm.fd ev')

lemma add_step (h : s.Inv lists) (hok : s.Allowed (.add ev)) : ∃ s', eventStep s (.add ev) = some s' ∧ s.Stays lists s' := by
  obtain ⟨hin, hnew, hvalid, hfds, hroom⟩ := hok
  exact ⟨_, rfl, marks_inv h (event_add_marks ev) (h.watching.add hin hnew hvalid hfds hroom).1⟩

lemma del_step (h : s.Inv lists) (hok : s.Allowed (.del ev)) : ∃ s', eventStep s (.del ev) = some s' ∧ s.Stays lists s' :=
  ⟨_, rfl, marks_inv h (event_del_marks ev) (h.watching.del hok).1⟩

lemma move_inv (h : s.Inv lists) (point : LoopPoint) (hp : PointInv s.events.fd (lists .pending) point) :
    s.Stays lists { s with point := point } :=
  h.of_same h.watching h.queues (fun _ _ _ => ⟨rfl, rfl⟩) rfl rfl hp

lemma select_step (h : s.Inv lists) (hok : s.Allowed (.select now)) :
    ∃ s', eventStep s (.select now) = some s' ∧ s.Stays lists s' := by
  have hpoint : PointInv s.events.fd (lists .pending) .top := hok.1 ▸ h.point
  obtain ⟨tv, htv⟩ : ∃ tv, s.events.calcNextTimeout now = some tv := ⟨_, calc_next_timeout h.queues⟩
  refine ⟨{ s with point := .selecting s.events.readFds tv }, ?_, move_inv h _ hpoint⟩
  rw [eventStep, hok.1, htv]
  rfl

lemma interrupted_step (h : s.Inv lists) (hok : s.Allowed .interrupted) :
    ∃ s', eventStep s .interrupted = some s' ∧ s.Stays lists s' := by
  obtain ⟨rfds, tv, hp⟩ := hok
  have hpoint : PointInv s.events.fd (lists .pending) (.selecting rfds tv) := hp ▸ h.point
  refine ⟨{ s with point := .top }, ?_, move_inv h _ hpoint⟩
  rw [eventStep, hp]

lemma select_fails_step (h : s.Inv lists) (hok : s.Allowed .selectFails) :
    ∃ s', eventStep s .selectFails = some s' ∧ s.Stays lists s' := by
  obtain ⟨rfds, tv, hp⟩ := hok
  have hpoint : PointInv s.events.fd (lists .pending) (.selecting rfds tv) := hp ▸ h.point
  refine ⟨{ s with point := .returned }, ?_, move_inv h _ hpoint⟩
  rw [eventStep, hp]

lemma returns_step (h : s.Inv lists) (hok : s.Allowed .funcReturns) :
    ∃ s', eventStep s .funcReturns = some s' ∧ s.Stays lists s' := by
  obtain ⟨ev, next, hp⟩ := hok
  have hpoint : PointInv s.events.fd (lists .pending) (.calling ev next) := hp ▸ h.point
  refine ⟨{ s with point := .firing next }, ?_, move_inv h _ hpoint⟩
  rw [eventStep, hp]

/-! ### Timers -/

/-- Where a sorted list is cut, what is behind the cut is not before the new element. -/
lemma not_before_cut {key : ℕ → ℤ} {earlier : ℕ → Bool} {timers : List ℕ} {t : ℤ} {b : ℕ}
    (hs : timers.Pairwise fun a b => key a ≤ key b) (he : ∀ a ∈ timers, earlier a = true ↔ key a < t)
    (hb : b ∈ timers.dropWhile earlier) : t ≤ key b := by
  have hsub := List.dropWhile_suffix (l := timers) earlier
  have hsorted := hs.sublist hsub.sublist
  cases hrest : timers.dropWhile earlier with
  | nil =>
    rw [hrest] at hb
    exact absurd hb List.not_mem_nil
  | cons y ys =>
    have hhead : y ∈ (timers.dropWhile earlier).head? := by rw [hrest]; rfl
    have hy : earlier y = false := dropped_head hhead
    have hkey : t ≤ key y := by
      have hin : y ∈ timers := hsub.subset (hrest ▸ List.mem_cons_self)
      exact not_lt.mp fun hlt => Bool.false_ne_true (hy.symm.trans ((he y hin).mpr hlt))
    rw [hrest] at hb hsorted
    rcases List.mem_cons.mp hb with rfl | hb
    · exact hkey
    · exact le_trans hkey ((List.pairwise_cons.mp hsorted).1 b hb)

lemma sorted_insert {key key' : ℕ → ℤ} {earlier : ℕ → Bool} {timers : List ℕ}
    (hs : timers.Pairwise fun a b => key a ≤ key b) (hsame : ∀ a ∈ timers, key' a = key a)
    (he : ∀ a ∈ timers, earlier a = true ↔ key a < key' ev) :
    (timers.takeWhile earlier ++ ev :: timers.dropWhile earlier).Pairwise fun a b => key' a ≤ key' b := by
  have htake := List.takeWhile_prefix (l := timers) earlier
  have hdrop := List.dropWhile_suffix (l := timers) earlier
  have hs' : timers.Pairwise fun a b => key' a ≤ key' b := hs.imp_of_mem fun {a b} ha hb hle => by
    rwa [hsame a ha, hsame b hb]
  refine List.pairwise_append.mpr ⟨hs'.sublist htake.sublist, ?_, fun a ha b hb => ?_⟩
  · refine List.pairwise_cons.mpr ⟨fun b hb => ?_, hs'.sublist hdrop.sublist⟩
    rw [hsame b (hdrop.subset hb)]
    exact not_before_cut hs he hb
  · have hlt : key a < key' ev := (he a (htake.subset ha)).mp (List.mem_takeWhile_imp ha)
    rw [hsame a (htake.subset ha)]
    rcases List.mem_cons.mp hb with rfl | hb
    · exact le_of_lt hlt
    · rw [hsame b (hdrop.subset hb)]
      exact le_trans (le_of_lt hlt) (not_before_cut hs he hb)

lemma Inv.fuel (h : s.Inv lists) : (lists .timer).length < s.added.length + 1 := by
  rw [h.once.length_eq, List.length_append]
  omega

lemma timer_add_step (h : s.Inv lists) {tv : Timeval} (hok : s.Allowed (.timerAdd ev (some tv) now)) :
    ∃ s', eventStep s (.timerAdd ev (some tv) now) = some s' ∧ s.Moves lists (.timerAdd ev (some tv) now) s' := by
  obtain ⟨hin, hnew, hnext, hnow, htv, -⟩ := hok tv rfl
  have hfree := h.queues.unlinked_iff.mp hnext
  obtain ⟨l, hadd, hqueues⟩ := timer_add tv now h.queues hfree h.fuel
  have hindex : (s.events.mem (.event ev)).index = -1 := h.watching.unwatched ev hin hnew
  have hw : ((s.events.timed ev (timeradd now tv)).withLinks l).Watching (insert ev s.initialised) :=
    (h.watching.store hnew (e := { s.events.mem (.event ev) with fd := -1, timeout := timeradd now tv })
      hindex).with_links l
  rw [Finset.insert_eq_of_mem hin] at hw
  have hself : ((s.events.timed ev (timeradd now tv)).withLinks l).fd ev = -1 ∧
      ((s.events.timed ev (timeradd now tv)).withLinks l).timeout ev = timeradd now tv := by
    have hmem : (s.events.timed ev (timeradd now tv)).mem (.event ev) =
        { s.events.mem (.event ev) with fd := -1, timeout := timeradd now tv } := store_self _ _
    exact ⟨congrArg RilEvent.fd hmem, congrArg RilEvent.timeout hmem⟩
  have hother : ∀ q, ∀ ev' ∈ lists q, ((s.events.timed ev (timeradd now tv)).withLinks l).fd ev' = s.events.fd ev' ∧
      ((s.events.timed ev (timeradd now tv)).withLinks l).timeout ev' = s.events.timeout ev' := by
    intro q ev' hev'
    have hmem : (s.events.timed ev (timeradd now tv)).mem (.event ev') = s.events.mem (.event ev') :=
      store_other fun heq => hfree q (EventPtr.event.inj heq ▸ hev')
    have hkeeps := with_links_keeps (d := s.events.timed ev (timeradd now tv)) l
    exact ⟨(hkeeps.fd ev').trans (congrArg RilEvent.fd hmem), (hkeeps.timeout ev').trans (congrArg RilEvent.timeout hmem)⟩
  have htimers : s.listsAfter lists (.timerAdd ev (some tv) now) .timer =
      (lists .timer).takeWhile (s.events.earlier (timeradd now tv)) ++
        ev :: (lists .timer).dropWhile (s.events.earlier (timeradd now tv)) := by
    rw [listsAfter, Function.update_self]
  have hpending : s.listsAfter lists (.timerAdd ev (some tv) now) .pending = lists .pending := by
    rw [listsAfter, Function.update_of_ne EventQueue.noConfusion]
  have hstep : eventStep s (.timerAdd ev (some tv) now) = some
      { s with events := (s.events.timed ev (timeradd now tv)).withLinks l, added := s.added ++ [ev] } := by
    rw [eventStep, hadd]
    rfl
  generalize (s.events.timed ev (timeradd now tv)).withLinks l = events at hw hqueues hself hother hstep
  have hdue : EventLoop.due { s with events := events, added := s.added ++ [ev] }
      (s.listsAfter lists (.timerAdd ev (some tv) now)) = s.due lists := by
    rw [due, hpending]
    have hsame : EventLoop.due { s with events := events } lists = s.due lists :=
      due_congr rfl fun ev' hev' => (hother .pending ev' hev').1
    exact hsame
  refine ⟨_, hstep, ⟨hw, hqueues, fun ev' hev' => ?_, ?_, ?_, ?_⟩, hdue.trans (List.append_nil _).symm⟩
  · rw [htimers, List.mem_append, List.mem_cons] at hev'
    have hcases : ev' = ev ∨ ev' ∈ lists .timer := by
      rcases hev' with hev' | rfl | hev'
      · exact .inr ((List.takeWhile_prefix _).subset hev')
      · exact .inl rfl
      · exact .inr ((List.dropWhile_suffix _).subset hev')
    rcases hcases with rfl | hev'
    · rw [hself.2]
      exact ⟨hself.1, timeradd_normalised hnow htv⟩
    · rw [(hother .timer ev' hev').1, (hother .timer ev' hev').2]
      exact h.timers ev' hev'
  · rw [htimers]
    refine sorted_insert h.sorted (fun ev' hev' => ?_) fun ev' hev' => ?_
    · rw [(hother .timer ev' hev').2]
    · rw [hself.2]
      exact timercmp_lt (h.timers ev' hev').2 (timeradd_normalised hnow htv)
  · have hmiddle : ((lists .timer).takeWhile (s.events.earlier (timeradd now tv)) ++
        ev :: (lists .timer).dropWhile (s.events.earlier (timeradd now tv))).Perm _ := List.perm_middle
    rw [List.takeWhile_append_dropWhile] at hmiddle
    rw [hdue, htimers]
    calc
      List.Perm (s.added ++ [ev]) (ev :: s.added) := List.perm_append_singleton ev s.added
      List.Perm _ (ev :: (timerCalls (s.due lists) ++ lists .timer)) := h.once.cons ev
      List.Perm _ (timerCalls (s.due lists) ++ ev :: lists .timer) := List.perm_middle.symm
      List.Perm _ _ := hmiddle.symm.append_left _
  · rw [hpending]
    exact h.point.congr fun ev' hev' => (hother .pending ev' hev').1

lemma timer_calls_append (xs ys : List (ℕ × ℤ)) : timerCalls (xs ++ ys) = timerCalls xs ++ timerCalls ys := by
  rw [timerCalls, List.filter_append, List.map_append]
  rfl

lemma timer_calls_timers {events : List ℕ} {fd : ℕ → ℤ} (h : ∀ ev ∈ events, fd ev = -1) :
    timerCalls (events.map fun ev => (ev, fd ev)) = events := by
  induction events with
  | nil => rfl
  | cons ev events ih =>
    have hrest := ih fun ev' hev' => h ev' (List.mem_cons_of_mem _ hev')
    rw [timerCalls] at hrest ⊢
    rw [List.map_cons, List.filter_cons_of_pos (by simpa using h ev List.mem_cons_self), List.map_cons, hrest]

lemma timer_calls_watched {events : List ℕ} {fd : ℕ → ℤ} (h : ∀ ev ∈ events, fd ev ≠ -1) :
    timerCalls (events.map fun ev => (ev, fd ev)) = [] := by
  rw [timerCalls, List.map_eq_nil_iff, List.filter_eq_nil_iff]
  intro c hc
  obtain ⟨ev, hev, rfl⟩ := List.mem_map.mp hc
  simpa using h ev hev

lemma timeouts_step (h : s.Inv lists) (hok : s.Allowed (.timeouts now rfds)) :
    ∃ s', eventStep s (.timeouts now rfds) = some s' ∧ s.Moves lists (.timeouts now rfds) s' := by
  obtain ⟨⟨readFds, tv, hp, hsub⟩, hnow⟩ := hok
  have hnone : lists .pending = [] := by
    have hpoint := h.point
    rw [hp] at hpoint
    exact hpoint
  obtain ⟨l, hrun, hqueues⟩ := process_timeouts now h.queues h.fuel
  have htimers : s.listsAfter lists (.timeouts now rfds) .timer = (lists .timer).dropWhile (s.events.expired now) := by
    rw [listsAfter, Function.update_of_ne EventQueue.noConfusion, Function.update_self]
  have hpending : s.listsAfter lists (.timeouts now rfds) .pending = (lists .timer).takeWhile (s.events.expired now) := by
    rw [listsAfter, Function.update_self, hnone, List.nil_append]
  have htake := List.takeWhile_prefix (l := lists .timer) (s.events.expired now)
  have hdrop := List.dropWhile_suffix (l := lists .timer) (s.events.expired now)
  have hdue : EventLoop.due { s with events := s.events.withLinks l, point := .timedOut rfds }
      (s.listsAfter lists (.timeouts now rfds)) =
        s.due lists ++ ((lists .timer).takeWhile (s.events.expired now)).map fun ev => (ev, s.events.fd ev) := by
    rw [due, due, hpending, hnone, List.map_nil, List.append_nil]
    rfl
  refine ⟨{ s with events := s.events.withLinks l, point := .timedOut rfds }, ?_, ⟨h.watching.with_links l, hqueues,
    fun ev hev => ?_, ?_, ?_, fun ev hev => ?_⟩, hdue⟩
  · rw [eventStep, hp]
    dsimp only
    rw [if_pos hsub, hrun]
    rfl
  · exact h.timers ev (hdrop.subset (htimers ▸ hev))
  · rw [htimers]
    exact h.sorted.sublist hdrop.sublist
  · have hnew : timerCalls (((lists .timer).takeWhile (s.events.expired now)).map fun ev => (ev, s.events.fd ev)) =
        (lists .timer).takeWhile (s.events.expired now) := timer_calls_timers fun ev hev => (h.timers ev (htake.subset hev)).1
    have honce := h.once
    rw [← List.takeWhile_append_dropWhile (p := s.events.expired now) (l := lists .timer), ← List.append_assoc] at honce
    rw [hdue, htimers, timer_calls_append, hnew]
    exact honce
  · exact (h.timers ev (htake.subset (hpending ▸ hev))).1

/-! ### Calls -/

/-- No event that is ready is in a list while the timers are pending: these have no descriptor. -/
lemma ready_free (h : s.Inv lists) (hp : s.point = .timedOut rfds) : ∀ ev ∈ s.events.readyFrom rfds 0, ∀ q, ev ∉ lists q := by
  have hpoint : PointInv s.events.fd (lists .pending) (.timedOut rfds) := hp ▸ h.point
  intro ev hev q hmem
  have hvalid := (h.watching.valid ev (List.mem_of_mem_filter hev)).1
  have hfd : s.events.fd ev = -1 := by
    cases q with
    | timer => exact (h.timers ev hmem).1
    | pending => exact hpoint ev hmem
  omega

lemma read_readies_step (h : s.Inv lists) (hok : s.Allowed .readReadies) :
    ∃ s', eventStep s .readReadies = some s' ∧ s.Moves lists .readReadies s' := by
  obtain ⟨rfds, hp⟩ := hok
  obtain ⟨events, hrun, hread⟩ := read_readies h.watching h.queues (ready_free h hp)
  have hlists : s.listsAfter lists .readReadies =
      Function.update lists .pending (lists .pending ++ s.events.readyFrom rfds 0) := by rw [listsAfter, hp]
  have htimers : s.listsAfter lists .readReadies .timer = lists .timer := by
    rw [hlists, Function.update_of_ne EventQueue.noConfusion]
  have hpending : s.listsAfter lists .readReadies .pending = lists .pending ++ s.events.readyFrom rfds 0 := by
    rw [hlists, Function.update_self]
  have hqueues : events.Queues (s.listsAfter lists .readReadies) := hlists ▸ hread.queues
  have hfirst : (events.mem .pendingList).next =
      some (((s.listsAfter lists .readReadies .pending).map .event).headD .pendingList) := hqueues.first (q := .pending)
  generalize hhead : ((s.listsAfter lists .readReadies .pending).map EventPtr.event).headD .pendingList = p at hfirst
  have hdue : EventLoop.due { s with events := events, point := .firing p } (s.listsAfter lists .readReadies) =
      s.due lists ++ (s.events.readyFrom rfds 0).map fun ev => (ev, s.events.fd ev) := by
    rw [due, due, hpending, List.append_assoc, ← List.map_append]
    exact congrArg (s.calls ++ ·) (List.map_congr_left fun ev _ => by rw [hread.keeps.fd])
  have hgains : s.gains lists .readReadies = s.events.readyFrom rfds 0 := by rw [gains, hp]
  refine ⟨{ s with events := events, point := .firing p }, ?_, ⟨hread.watching, hqueues, fun ev hev => ?_, ?_, ?_, hhead.symm⟩,
    hgains ▸ hdue⟩
  · rw [eventStep, hp]
    dsimp only
    rw [hrun, Option.bind_eq_bind, Option.bind_some, hfirst]
    rfl
  · rw [hread.keeps.fd, hread.keeps.timeout]
    exact h.timers ev (htimers ▸ hev)
  · rw [htimers]
    exact h.sorted.imp fun {ev ev'} hle => by rwa [hread.keeps.timeout, hread.keeps.timeout]
  · have hready : timerCalls ((s.events.readyFrom rfds 0).map fun ev => (ev, s.events.fd ev)) = [] :=
      timer_calls_watched fun ev hev hfd => by
        have hvalid := (h.watching.valid ev (List.mem_of_mem_filter hev)).1
        omega
    rw [hdue, timer_calls_append, hready, List.append_nil, htimers]
    exact h.once

lemma fire_step (h : s.Inv lists) (hok : s.Allowed .fire) :
    ∃ s', eventStep s .fire = some s' ∧ s.Moves lists .fire s' := by
  obtain ⟨p, hp⟩ := hok
  have hpoint : PointInv s.events.fd (lists .pending) (.firing p) := hp ▸ h.point
  have hhead : p = ((lists .pending).map EventPtr.event).headD .pendingList := hpoint
  have hlists : s.listsAfter lists .fire = Function.update lists .pending (lists .pending).tail := rfl
  cases hpend : lists .pending with
  | nil =>
    rw [hpend] at hhead
    subst hhead
    have hsame : s.listsAfter lists .fire = lists := by
      rw [hlists, hpend, List.tail_nil, ← hpend, Function.update_eq_self]
    obtain ⟨hinv, hdue⟩ := move_inv h .top hpend
    refine ⟨{ s with point := .top }, ?_, hsame.symm ▸ hinv, ?_⟩
    · rw [eventStep, hp]
      rfl
    · rw [hsame, hdue]
      exact (List.append_nil _).symm
  | cons ev rest =>
    rw [hpend] at hhead
    subst hhead
    have hfirst : lists .pending = [] ++ ev :: rest := hpend
    obtain ⟨l, hremove, hqueues⟩ := h.queues.remove hfirst
    have hpending : s.listsAfter lists .fire .pending = rest := by rw [hlists, Function.update_self, hpend, List.tail_cons]
    have htimers : s.listsAfter lists .fire .timer = lists .timer := by
      rw [hlists, Function.update_of_ne EventQueue.noConfusion]
    have hnext : (s.events.mem (.event ev)).next = some ((rest.map .event).headD .pendingList) :=
      h.queues.next hfirst
    have hdue : s.due lists = (s.calls ++ [(ev, s.events.fd ev)]) ++ rest.map fun ev => (ev, s.events.fd ev) := by
      rw [due, hpend, List.map_cons, List.append_cons]
    refine ⟨{ s with
      events := s.events.withLinks l
      point := .calling ev ((rest.map .event).headD .pendingList)
      calls := s.calls ++ [(ev, s.events.fd ev)] }, ?_, ⟨h.watching.with_links l, ?_, ?_, ?_, ?_, ?_⟩, ?_⟩
    · have hhead : ((ev :: rest).map EventPtr.event).headD .pendingList = .event ev := rfl
      rw [eventStep, hp, hhead]
      dsimp only
      rw [hnext, hremove, Option.bind_eq_bind, Option.bind_some, Option.bind_eq_bind, Option.bind_some]
      rfl
    · rw [hlists, hpend]
      exact hqueues
    · rw [htimers]
      exact h.timers
    · rw [htimers]
      exact h.sorted
    · rw [htimers, due, hpending]
      exact hdue ▸ h.once
    · rw [hpending]
      rfl
    · rw [due, hpending, hdue]
      exact (List.append_nil _).symm

/-! ### Runs -/

lemma Stays.moves {a : EventAction} (h : s.Stays lists s') (hl : s.listsAfter lists a = lists)
    (hg : s.gains lists a = []) : s.Moves lists a s' := by
  refine ⟨hl.symm ▸ h.inv, ?_⟩
  rw [hl, hg, List.map_nil, List.append_nil]
  exact h.due

lemma allowed_step {a : EventAction} (h : s.Inv lists) (hok : s.Allowed a) :
    ∃ s', eventStep s a = some s' ∧ s.Moves lists a s' := by
  have hstays : ∀ {a}, s.listsAfter lists a = lists → s.gains lists a = [] →
      (∃ s', eventStep s a = some s' ∧ s.Stays lists s') → ∃ s', eventStep s a = some s' ∧ s.Moves lists a s' :=
    fun hl hg ⟨s', hs, h⟩ => ⟨s', hs, h.moves hl hg⟩
  cases a with
  | set ev fd persist => exact hstays rfl rfl (set_step h hok)
  | add ev => exact hstays rfl rfl (add_step h hok)
  | del ev => exact hstays rfl rfl (del_step h hok)
  | timerAdd ev tv now =>
    cases tv with
    | none =>
      refine hstays rfl rfl ⟨_, rfl, ?_⟩
      exact h.of_same h.watching h.queues (fun _ _ _ => ⟨rfl, rfl⟩) (List.append_nil _) rfl h.point
    | some tv => exact timer_add_step h hok
  | select now => exact hstays rfl rfl (select_step h hok)
  | interrupted => exact hstays rfl rfl (interrupted_step h hok)
  | selectFails => exact hstays rfl rfl (select_fails_step h hok)
  | timeouts now rfds => exact timeouts_step h hok
  | readReadies => exact read_readies_step h hok
  | fire => exact fire_step h hok
  | funcReturns => exact hstays rfl rfl (returns_step h hok)

lemma Inv.moves {a : EventAction} (h : s.Inv lists) (hok : s.Allowed a) (hs : eventStep s a = some s') :
    s.Moves lists a s' := by
  obtain ⟨s'', hs'', hmoves⟩ := allowed_step h hok
  obtain rfl := Option.some.inj (hs''.symm.trans hs)
  exact hmoves

lemma init_inv : ({} : EventLoop).Inv fun _ => [] := by
  have hwatched : RilEvents.init.watched = [] := rfl
  refine ⟨⟨rfl, fun i ev hi => ?_, fun ev hev => ?_, ?_, ?_, ?_, fun fd => ?_, ?_⟩, ⟨fun q => ?_, fun q q' p hp hp' => ?_,
    fun p hfree => ?_⟩, fun ev hev => ?_, List.Pairwise.nil, List.Perm.refl [], rfl⟩
  · have hmem : ev ∈ RilEvents.init.watched := mem_entries_iff.mpr ⟨i, hi⟩
    exact absurd hmem List.not_mem_nil
  · exact absurd hev (Finset.notMem_empty ev)
  · rw [hwatched]
    exact fun ev hev => absurd hev List.not_mem_nil
  · rw [hwatched]
    exact fun ev hev => absurd hev List.not_mem_nil
  · rw [hwatched]
    exact fun ev hev => absurd hev List.not_mem_nil
  · rw [hwatched]
    exact iff_of_false (Finset.notMem_empty fd) fun ⟨ev, hev, _⟩ => absurd hev List.not_mem_nil
  · rw [hwatched]
    exact fun ev hev => absurd hev List.not_mem_nil
  · cases q with
    | timer => exact Circular.empty_iff.mpr ⟨rfl, rfl⟩
    | pending => exact Circular.empty_iff.mpr ⟨rfl, rfl⟩
  · have hhead := (List.mem_singleton.mp hp).symm.trans (List.mem_singleton.mp hp')
    cases q <;> cases q' <;> first | rfl | exact EventPtr.noConfusion hhead
  · cases p with
    | timerList => exact absurd (List.mem_singleton_self _) (hfree .timer)
    | pendingList => exact absurd (List.mem_singleton_self _) (hfree .pending)
    | event ev => rfl
  · exact absurd hev List.not_mem_nil

lemma reachable_inv (h : Reaches eventStep Allowed {} s) : ∃ lists, s.Inv lists := by
  induction h with
  | refl => exact ⟨_, init_inv⟩
  | tail _ hok hs ih =>
    obtain ⟨lists, hinv⟩ := ih
    exact ⟨_, (hinv.moves hok hs).inv⟩

/-- The steps from `processTimeouts` to the end of a round of the loop -/
def Rest (s : EventLoop) (a : EventAction) : Prop :=
  s.Allowed a ∧ match a with
    | .select _ | .interrupted | .selectFails | .timeouts _ _ => False
    | _ => True

/-- The steps from `firePending` on -/
def Fires (s : EventLoop) (a : EventAction) : Prop := s.Rest a ∧ a ≠ .readReadies

/-- No other timers are called in the rest of the round. -/
lemma rest_due (h : s.Inv lists) (hr : Reaches eventStep Rest s s') : ∃ lists', s'.Inv lists' ∧
    timerCalls (s'.due lists') = timerCalls (s.due lists) := by
  induction hr with
  | refl => exact ⟨lists, h, rfl⟩
  | @tail t t' a _ hok hs ih =>
    obtain ⟨lists', hinv, hdue⟩ := ih
    have hmoves := hinv.moves hok.1 hs
    have hgains : timerCalls ((t.gains lists' a).map fun ev => (ev, t.events.fd ev)) = [] := by
      cases a with
      | timeouts now rfds => exact absurd hok.2 id
      | readReadies =>
        obtain ⟨rfds, hp⟩ := hok.1
        rw [gains, hp]
        refine timer_calls_watched fun ev hev hfd => ?_
        have hvalid := (hinv.watching.valid ev (List.mem_of_mem_filter hev)).1
        omega
      | _ => rfl
    refine ⟨_, hmoves.inv, ?_⟩
    rw [hmoves.due, timer_calls_append, hgains, List.append_nil, hdue]

lemma fires_due (h : s.Inv lists) (hr : Reaches eventStep Fires s s') : ∃ lists', s'.Inv lists' ∧
    s'.due lists' = s.due lists := by
  induction hr with
  | refl => exact ⟨lists, h, rfl⟩
  | @tail t t' a _ hok hs ih =>
    obtain ⟨lists', hinv, hdue⟩ := ih
    have hmoves := hinv.moves hok.1.1 hs
    have hgains : t.gains lists' a = [] := by
      cases a with
      | timeouts now rfds => exact absurd hok.1.2 id
      | readReadies => exact absurd rfl hok.2
      | _ => rfl
    refine ⟨_, hmoves.inv, ?_⟩
    rw [hmoves.due, hgains, List.map_nil, List.append_nil, hdue]

/-- At the top nothing is pending. -/
lemma Inv.due_top (h : s.Inv lists) (hp : s.point = .top) : s.due lists = s.calls := by
  have hnone : PointInv s.events.fd (lists .pending) .top := hp ▸ h.point
  have hnone : lists .pending = [] := hnone
  rw [due, hnone, List.map_nil, List.append_nil]

end EventLoop

end Ril.Libril.Event
