import Mathlib.Data.List.TakeWhile
import Ril.Libril.EventLists

/-! The queue of the timers and the pending list, as lists. -/

namespace Ril.Libril.Event

open Lib

/-! ### Times -/

namespace Timeval

def Normalised (t : Timeval) : Prop := 0 ≤ t.usec ∧ t.usec < 1000000

def micros (t : Timeval) : ℤ := t.sec * 1000000 + t.usec

end Timeval

open Timeval

variable {t u now : Timeval}

lemma timercmp_lt (ht : t.Normalised) (hu : u.Normalised) : timercmp t u (· < ·) = true ↔ t.micros < u.micros := by
  obtain ⟨ht, ht'⟩ := ht
  obtain ⟨hu, hu'⟩ := hu
  rw [timercmp, micros, micros]
  split
  · rw [decide_eq_true_iff]
    omega
  · rw [decide_eq_true_iff]
    omega

lemma timercmp_gt (ht : t.Normalised) (hu : u.Normalised) : timercmp t u (· > ·) = true ↔ u.micros < t.micros := by
  rw [← timercmp_lt hu ht, timercmp, timercmp]
  simp only [eq_comm (a := t.sec), gt_iff_lt]

lemma timeradd_normalised (ht : t.Normalised) (hu : u.Normalised) : (timeradd t u).Normalised := by
  obtain ⟨ht, ht'⟩ := ht
  obtain ⟨hu, hu'⟩ := hu
  rw [timeradd]
  split
  · constructor <;> dsimp only <;> omega
  · constructor <;> dsimp only <;> omega

lemma timeradd_micros (t u : Timeval) : (timeradd t u).micros = t.micros + u.micros := by
  rw [timeradd, micros, micros, micros]
  split
  · dsimp only
    omega
  · dsimp only
    omega

lemma timersub_normalised (ht : t.Normalised) (hu : u.Normalised) : (timersub t u).Normalised := by
  obtain ⟨ht, ht'⟩ := ht
  obtain ⟨hu, hu'⟩ := hu
  rw [timersub]
  split
  · constructor <;> dsimp only <;> omega
  · constructor <;> dsimp only <;> omega

lemma timersub_micros (t u : Timeval) : (timersub t u).micros = t.micros - u.micros := by
  rw [timersub, micros, micros, micros]
  split
  · dsimp only
    omega
  · dsimp only
    omega

/-! ### The links -/

namespace RilEvents

variable {d : RilEvents} {l l' : Links EventPtr} {ev list p n : EventPtr}

def links (d : RilEvents) : Links EventPtr := ⟨fun p => (d.mem p).next, fun p => (d.mem p).prev⟩

def withLinks (l : Links EventPtr) (d : RilEvents) : RilEvents :=
  { d with mem := fun p => { d.mem p with next := l.next p, prev := l.prev p } }

@[simp] lemma store_self (p : EventPtr) (e : RilEvent) : (d.store p e).mem p = e := Function.update_self _ _ _

lemma store_other {e : RilEvent} {q : EventPtr} (h : q ≠ p) : (d.store p e).mem q = d.mem q := Function.update_of_ne h _ _

@[simp] lemma links_with_links : (d.withLinks l).links = l := rfl

@[simp] lemma with_links_next (q : EventPtr) : ((d.withLinks l).mem q).next = l.next q := rfl

@[simp] lemma with_links_prev (q : EventPtr) : ((d.withLinks l).mem q).prev = l.prev q := rfl

lemma with_links_twice : (d.withLinks l).withLinks l' = d.withLinks l' := rfl

lemma set_next_links (v : Option EventPtr) :
    d.setNext p v = d.withLinks { d.links with next := Function.update d.links.next p v } := by
  rw [setNext, store, withLinks, RilEvents.mk.injEq]
  refine ⟨funext fun q => ?_, rfl, rfl, rfl⟩
  by_cases hq : q = p
  · rw [hq, Function.update_self]
    dsimp only
    rw [Function.update_self]
    rfl
  · rw [Function.update_of_ne hq]
    dsimp only
    rw [Function.update_of_ne hq]
    rfl

lemma set_prev_links (v : Option EventPtr) :
    d.setPrev p v = d.withLinks { d.links with prev := Function.update d.links.prev p v } := by
  rw [setPrev, store, withLinks, RilEvents.mk.injEq]
  refine ⟨funext fun q => ?_, rfl, rfl, rfl⟩
  by_cases hq : q = p
  · rw [hq, Function.update_self]
    dsimp only
    rw [Function.update_self]
    rfl
  · rw [Function.update_of_ne hq]
    dsimp only
    rw [Function.update_of_ne hq]
    rfl

lemma add_to_list (h : d.links.prev list = some p) :
    d.addToList ev list = some (d.withLinks (d.links.insert ev p list)) := by
  simp only [addToList, set_next_links, set_prev_links, with_links_twice, links_with_links, with_links_prev, h,
    Function.update_self, Option.bind_eq_bind, Option.bind_some]
  rfl

lemma remove_from_list (hn : d.links.next ev = some n) (hp : d.links.prev ev = some p) :
    d.removeFromList ev = some (d.withLinks (d.links.remove ev p n)) := by
  have hnext : (d.mem ev).next = some n := hn
  have hprev : (d.mem ev).prev = some p := hp
  have hsame : Function.update d.links.prev n (some p) ev = some p := by
    by_cases heq : ev = n
    · rw [heq, Function.update_self]
    · rw [Function.update_of_ne heq, hp]
  simp only [removeFromList, set_next_links, set_prev_links, with_links_twice, links_with_links, with_links_prev,
    with_links_next, hnext, hprev, hn, hsame, Option.bind_eq_bind, Option.bind_some]
  rfl

end RilEvents

/-! ### The two lists -/

inductive EventQueue
  | timer | pending
deriving DecidableEq

def EventQueue.head : EventQueue → EventPtr
  | timer => .timerList
  | pending => .pendingList

/-- The events of the two lists; the other events are in neither. -/
def RilEvents.Queues (d : RilEvents) (lists : EventQueue → List ℕ) : Prop :=
  Rings d.links EventQueue.head fun q => (lists q).map .event

namespace RilEvents.Queues

variable {d : RilEvents} {lists : EventQueue → List ℕ} {q : EventQueue} {ev x fuel : ℕ} {xs ys zs : List ℕ}

lemma first (h : d.Queues lists) : (d.mem q.head).next = some (((lists q).map .event).headD q.head) := by
  have hc : Circular d.links q.head ([] ++ (lists q).map .event) := h.circular q
  exact hc.parts.2.2.1

lemma next (h : d.Queues lists) (hq : lists q = xs ++ x :: ys) :
    (d.mem (.event x)).next = some ((ys.map .event).headD q.head) := by
  have hc := h.circular q
  rw [hq, List.append_cons, List.map_append] at hc
  have hlinked := hc.parts.2.2
  rw [List.map_append, List.map_cons, List.map_nil, List.getLastD_concat] at hlinked
  exact hlinked.1

lemma map_update (lists : EventQueue → List ℕ) (q : EventQueue) (xs : List ℕ) :
    (fun q' => (Function.update lists q xs q').map EventPtr.event) =
      Function.update (fun q' => (lists q').map EventPtr.event) q (xs.map EventPtr.event) := by
  funext q'
  by_cases hq : q' = q
  · rw [hq, Function.update_self, Function.update_self]
  · rw [Function.update_of_ne hq, Function.update_of_ne hq]

lemma not_linked (hev : ∀ q, ev ∉ lists q) (q : EventQueue) : EventPtr.event ev ∉ q.head :: (lists q).map .event := by
  rw [List.mem_cons, List.mem_map_of_injective fun a b h => EventPtr.event.inj h]
  rintro (heq | hmem)
  · cases q <;> exact EventPtr.noConfusion heq
  · exact hev q hmem

lemma insert (h : d.Queues lists) (hq : lists q = xs ++ ys) (hev : ∀ q, ev ∉ lists q) :
    ∃ l, d.addToList (.event ev) ((ys.map .event).headD q.head) = some (d.withLinks l) ∧
      (d.withLinks l).Queues (Function.update lists q (xs ++ ev :: ys)) := by
  have hlist : (lists q).map EventPtr.event = xs.map .event ++ ys.map .event := by rw [hq, List.map_append]
  have hprev := (hlist ▸ h.circular q).parts.2.2.2
  refine ⟨_, add_to_list hprev, ?_⟩
  rw [Queues, map_update, List.map_append, List.map_cons]
  exact Rings.insert h hlist (not_linked hev)

lemma remove (h : d.Queues lists) (hq : lists q = xs ++ ev :: ys) :
    ∃ l, d.removeFromList (.event ev) = some (d.withLinks l) ∧
      (d.withLinks l).Queues (Function.update lists q (xs ++ ys)) := by
  have hlist : (lists q).map EventPtr.event = xs.map .event ++ .event ev :: ys.map .event := by
    rw [hq, List.map_append, List.map_cons]
  have hprev := (hlist ▸ h.circular q).parts.2.2.2
  refine ⟨_, remove_from_list (h.next hq) hprev, ?_⟩
  rw [Queues, map_update, List.map_append]
  exact Rings.remove h hlist

lemma disjoint (h : d.Queues lists) {q' : EventQueue} (hq : ev ∈ lists q) (hq' : ev ∈ lists q') : q = q' :=
  h.apart q q' (.event ev) (List.mem_cons_of_mem _ (List.mem_map_of_mem hq)) (List.mem_cons_of_mem _ (List.mem_map_of_mem hq'))

lemma nodup (h : d.Queues lists) : (lists q).Nodup := (List.nodup_cons.mp (h.circular q).nodup).2.of_map

lemma removed (h : d.Queues lists) (hq : lists q = xs ++ ev :: ys) (q' : EventQueue) :
    ev ∉ Function.update lists q (xs ++ ys) q' := by
  by_cases hqq : q' = q
  · have hnodup : (lists q).Nodup := h.nodup
    rw [hq, List.nodup_middle] at hnodup
    rw [hqq, Function.update_self]
    exact (List.nodup_cons.mp hnodup).1
  · rw [Function.update_of_ne hqq]
    refine fun hmem => hqq (h.disjoint hmem ?_)
    rw [hq]
    exact List.mem_append_right _ List.mem_cons_self

lemma unlinked_iff (h : d.Queues lists) : (d.mem (.event ev)).next = none ↔ ∀ q, ev ∉ lists q := by
  refine ⟨fun hnone q hmem => ?_, fun hev => h.free _ (not_linked hev)⟩
  obtain ⟨xs, ys, hq⟩ := List.append_of_mem hmem
  rw [h.next hq] at hnone
  exact Option.some_ne_none _ hnone

end RilEvents.Queues

/-! ### The walks -/

namespace RilEvents

variable {d : RilEvents} {lists : EventQueue → List ℕ} {ev fuel : ℕ} {xs ys zs : List ℕ} {tv now : Timeval}

def timeout (d : RilEvents) (ev : ℕ) : Timeval := (d.mem (.event ev)).timeout

/-- The timers that `ril_timer_add` goes past -/
def earlier (d : RilEvents) (timeout : Timeval) (ev : ℕ) : Bool := timercmp (d.timeout ev) timeout (· < ·)

def expired (d : RilEvents) (now : Timeval) (ev : ℕ) : Bool := timercmp now (d.timeout ev) (· > ·)

lemma dropped_head {p : ℕ → Bool} {x : ℕ} (hx : x ∈ (xs.dropWhile p).head?) : p x = false := by
  have hnot := List.head?_dropWhile_not p xs
  rwa [Option.mem_def.mp hx] at hnot

lemma first_older (ev : ℕ) (h : d.Queues lists) (hq : lists .timer = xs ++ (zs ++ ys))
    (hzs : ∀ z ∈ zs, d.earlier (d.timeout ev) z = true) (hys : ∀ y ∈ ys.head?, d.earlier (d.timeout ev) y = false)
    (hf : zs.length < fuel) : d.firstOlder (.event ev) fuel (((zs ++ ys).map .event).headD .timerList) =
      some ((ys.map .event).headD .timerList) := by
  induction zs generalizing xs fuel with
  | nil =>
    obtain ⟨fuel, rfl⟩ := Nat.exists_eq_succ_of_ne_zero (Nat.ne_of_gt hf)
    rw [firstOlder]
    cases ys with
    | nil => rw [if_neg fun hc => hc.2 rfl]; rfl
    | cons y ys =>
      have hy : timercmp (d.mem (.event y)).timeout (d.mem (.event ev)).timeout (· < ·) = false := hys y rfl
      rw [if_neg fun hc => Bool.false_ne_true (hy.symm.trans hc.1)]
      rfl
  | cons z zs ih =>
    obtain ⟨fuel, rfl⟩ := Nat.exists_eq_succ_of_ne_zero (Nat.ne_of_gt (Nat.zero_lt_of_lt hf))
    have hz : timercmp (d.mem (.event z)).timeout (d.mem (.event ev)).timeout (· < ·) = true := hzs z List.mem_cons_self
    have hhere : lists .timer = xs ++ z :: (zs ++ ys) := hq
    have hnext := h.next hhere
    have hrest := ih (hhere.trans (List.append_cons xs z (zs ++ ys)))
      (fun z' hz' => hzs z' (List.mem_cons_of_mem _ hz')) (Nat.lt_of_succ_lt_succ hf)
    have hhead : ((z :: zs ++ ys).map EventPtr.event).headD .timerList = .event z := rfl
    rw [hhead, firstOlder, if_pos ⟨hz, EventPtr.noConfusion⟩, hnext]
    exact hrest

lemma process_timeouts_from (h : d.Queues lists) (hq : lists .timer = zs ++ ys) (hzs : ∀ z ∈ zs, d.expired now z = true)
    (hys : ∀ y ∈ ys.head?, d.expired now y = false) (hf : zs.length < fuel) :
    ∃ l, d.processTimeoutsFrom now fuel (((zs ++ ys).map .event).headD .timerList) = some (d.withLinks l) ∧
      (d.withLinks l).Queues (Function.update (Function.update lists .timer ys) .pending (lists .pending ++ zs)) := by
  induction zs generalizing d lists fuel with
  | nil =>
    obtain ⟨fuel, rfl⟩ := Nat.exists_eq_succ_of_ne_zero (Nat.ne_of_gt hf)
    refine ⟨d.links, ?_, ?_⟩
    · rw [processTimeoutsFrom]
      cases ys with
      | nil => exact if_neg fun hc => hc.1 rfl
      | cons y ys =>
        have hy : timercmp now (d.mem (.event y)).timeout (· > ·) = false := hys y rfl
        exact if_neg fun hc => Bool.false_ne_true (hy.symm.trans hc.2)
    · rw [List.append_nil, ← hq.trans (List.nil_append ys), Function.update_eq_self, Function.update_eq_self]
      exact h
  | cons z zs ih =>
    obtain ⟨fuel, rfl⟩ := Nat.exists_eq_succ_of_ne_zero (Nat.ne_of_gt (Nat.zero_lt_of_lt hf))
    have hz : timercmp now (d.mem (.event z)).timeout (· > ·) = true := hzs z List.mem_cons_self
    have hfirst : lists .timer = [] ++ z :: (zs ++ ys) := hq
    have hnext := h.next hfirst
    obtain ⟨l, hremove, hqueues⟩ := h.remove hfirst
    have hend : Function.update lists .timer ([] ++ (zs ++ ys)) .pending = lists .pending ++ [] := by
      rw [List.append_nil, Function.update_of_ne EventQueue.noConfusion]
    obtain ⟨l', hadd, hqueues'⟩ := hqueues.insert hend (h.removed hfirst)
    obtain ⟨l'', hrest, hqueues''⟩ := ih hqueues' (by simp) (fun z' hz' => hzs z' (List.mem_cons_of_mem _ hz')) hys
      (Nat.lt_of_succ_lt_succ hf)
    refine ⟨l'', ?_, ?_⟩
    · have hhead : ((z :: zs ++ ys).map EventPtr.event).headD .timerList = .event z := rfl
      have hadd : (d.withLinks l).addToList (.event z) .pendingList = some ((d.withLinks l).withLinks l') := hadd
      rw [hhead, processTimeoutsFrom, if_pos ⟨EventPtr.noConfusion, hz⟩, hnext, hremove, Option.bind_eq_bind,
        Option.bind_some, Option.bind_eq_bind, Option.bind_some, hadd, Option.bind_some]
      exact hrest
    · have hlists : Function.update (Function.update lists .timer ys) .pending (lists .pending ++ z :: zs) =
          Function.update (Function.update (Function.update (Function.update lists .timer ([] ++ (zs ++ ys))) .pending
            (lists .pending ++ [z])) .timer ys) .pending (lists .pending ++ [z] ++ zs) := by
        funext q
        cases q <;> simp
      have hlinks : d.withLinks l'' = ((d.withLinks l).withLinks l').withLinks l'' := rfl
      rw [hlists, hlinks]
      simpa using hqueues''

lemma process_timeouts (now : Timeval) (h : d.Queues lists) (hf : (lists .timer).length < fuel) :
    ∃ l, d.processTimeouts fuel now = some (d.withLinks l) ∧
      (d.withLinks l).Queues (Function.update (Function.update lists .timer ((lists .timer).dropWhile (d.expired now)))
        .pending (lists .pending ++ (lists .timer).takeWhile (d.expired now))) := by
  have hsplit := (List.takeWhile_append_dropWhile (p := d.expired now) (l := lists .timer)).symm
  have hfirst : (d.mem .timerList).next = some (((lists .timer).map .event).headD .timerList) := h.first (q := .timer)
  have hlength : ((lists .timer).takeWhile (d.expired now)).length < fuel :=
    Nat.lt_of_le_of_lt (List.takeWhile_prefix _).length_le hf
  have hexpired : ∀ z ∈ (lists .timer).takeWhile (d.expired now), d.expired now z = true := fun z hz =>
    List.mem_takeWhile_imp hz
  obtain ⟨l, hrun, hqueues⟩ := process_timeouts_from h hsplit hexpired (fun y hy => dropped_head hy) hlength
  refine ⟨l, ?_, hqueues⟩
  rw [processTimeouts, hfirst, Option.bind_eq_bind, Option.bind_some]
  rwa [← hsplit] at hrun

/-- An event that is in no list may be stored anew. -/
lemma Queues.store (h : d.Queues lists) (hev : ∀ q, ev ∉ lists q) {e : RilEvent} (he : e.next = none) :
    (d.store (.event ev) e).Queues lists := by
  have hother : ∀ p, p ≠ .event ev → (d.store (.event ev) e).mem p = d.mem p := fun p hp => store_other hp
  refine ⟨fun q => (h.circular q).congr fun p hp => ?_, h.apart, fun p hfree => ?_⟩
  · have hmem := hother p (ne_of_mem_of_not_mem hp (Queues.not_linked hev q))
    exact ⟨congrArg RilEvent.next hmem, congrArg RilEvent.prev hmem⟩
  · by_cases hp : p = .event ev
    · exact (congrArg RilEvent.next (hp ▸ store_self (.event ev) e)).trans he
    · exact (congrArg RilEvent.next (hother p hp)).trans (h.free p hfree)

/-- The event as `ril_timer_add` leaves it, but for its links -/
def timed (ev : ℕ) (timeout : Timeval) (d : RilEvents) : RilEvents :=
  d.store (.event ev) { d.mem (.event ev) with fd := -1, timeout := timeout }

lemma timer_add (tv now : Timeval) (h : d.Queues lists) (hev : ∀ q, ev ∉ lists q) (hf : (lists .timer).length < fuel) :
    ∃ l, d.rilTimerAdd fuel ev (some tv) now = some ((d.timed ev (timeradd now tv)).withLinks l) ∧
      ((d.timed ev (timeradd now tv)).withLinks l).Queues (Function.update lists .timer
        ((lists .timer).takeWhile (d.earlier (timeradd now tv)) ++
          ev :: (lists .timer).dropWhile (d.earlier (timeradd now tv)))) := by
  have hqueues : (d.timed ev (timeradd now tv)).Queues lists := h.store hev (h.unlinked_iff.mpr hev)
  have hself : (d.timed ev (timeradd now tv)).timeout ev = timeradd now tv := by simp [timed, timeout, store]
  have hother : ∀ z ∈ lists .timer, (d.timed ev (timeradd now tv)).timeout z = d.timeout z := by
    intro z hz
    have hne : z ≠ ev := fun heq => hev .timer (heq ▸ hz)
    simp [timed, timeout, store, hne]
  have hearlier : ∀ z ∈ lists .timer, (d.timed ev (timeradd now tv)).earlier (timeradd now tv) z =
      d.earlier (timeradd now tv) z := fun z hz => by rw [earlier, earlier, hother z hz]
  have hsplit := (List.takeWhile_append_dropWhile (p := d.earlier (timeradd now tv)) (l := lists .timer)).symm
  have hfirst : (d.mem .timerList).next = some (((lists .timer).map .event).headD .timerList) := h.first (q := .timer)
  have hlength : ((lists .timer).takeWhile (d.earlier (timeradd now tv))).length < fuel :=
    Nat.lt_of_le_of_lt (List.takeWhile_prefix _).length_le hf
  have hsplit' : lists .timer = [] ++ (_ ++ _) := hsplit
  have hfound := first_older ev hqueues hsplit' ?_ ?_ hlength
  · obtain ⟨l, hadd, hinsert⟩ := hqueues.insert hsplit hev
    refine ⟨l, ?_, hinsert⟩
    have hstored : (d.store (.event ev) { d.mem (.event ev) with fd := -1 }).store (.event ev)
        { (d.store (.event ev) { d.mem (.event ev) with fd := -1 }).mem (.event ev) with timeout := timeradd now tv } =
        d.timed ev (timeradd now tv) := by
      simp [timed, RilEvents.store]
    rw [← hsplit] at hfound
    rw [rilTimerAdd, hfirst, Option.bind_eq_bind, Option.bind_some]
    dsimp only
    rw [hstored, hfound]
    exact hadd
  · intro z hz
    rw [hself, hearlier z ((List.takeWhile_prefix _).subset hz)]
    exact List.mem_takeWhile_imp hz
  · intro y hy
    rw [hself, hearlier y ((List.dropWhile_suffix _).subset (List.mem_of_mem_head? hy))]
    exact dropped_head hy

lemma calc_next_timeout (h : d.Queues lists) : d.calcNextTimeout now = some ((lists .timer).head?.map fun ev =>
    if timercmp (d.timeout ev) now (· > ·) then timersub (d.timeout ev) now else {}) := by
  have hfirst : (d.mem .timerList).next = some (((lists .timer).map .event).headD .timerList) := h.first (q := .timer)
  rw [calcNextTimeout, hfirst, Option.bind_eq_bind, Option.bind_some]
  cases lists .timer with
  | nil => rfl
  | cons ev timers =>
    have hhead : ((ev :: timers).map EventPtr.event).headD .timerList = .event ev := rfl
    rw [hhead, if_neg EventPtr.noConfusion, List.head?_cons, Option.map_some]
    by_cases hc : timercmp (d.mem (.event ev)).timeout now (· > ·) = true
    · rw [if_pos hc]
      exact congrArg (fun t => some (some t)) (if_pos hc).symm
    · rw [if_neg hc]
      exact congrArg (fun t => some (some t)) (if_neg hc).symm

end RilEvents

end Ril.Libril.Event
